import MonkeySyntax.Cursor
import MonkeySyntax.Diagnostic

/-!
# Streams of tokens

A token is reported at its first character, except that illegal tokens and the end are reported one
column further left.  Every token but the end shortens the rest of the text (`rest_next_lt`);
reading to the end stops for this reason.
-/

set_option autoImplicit false

namespace MonkeySyntax

/-- The column reported for a token of this kind whose first character is in `column`. -/
def Kind.reportedColumn (kind : Kind) (column : Nat) : Int :=
  if kind = .illegal ∨ kind = .eof then (column : Int) - 1 else column

namespace Cursor

def lexeme (cursor : Cursor) : Lexeme :=
  match cursor.rest with
  | [] => ⟨.eof, []⟩
  | c :: rest => .starting c rest

def next (cursor : Cursor) : Token × Cursor :=
  let here := cursor.skipLayout
  let lexeme := here.lexeme
  (⟨lexeme.kind, String.ofList lexeme.chars, here.line, lexeme.kind.reportedColumn here.column⟩,
    here.advanceBy lexeme.chars.length)

theorem rest_next (cursor : Cursor) :
    cursor.next.2.rest
      = cursor.skipLayout.rest.drop cursor.skipLayout.lexeme.chars.length :=
  rest_advanceBy _ _

theorem length_rest_skipLayout_le (cursor : Cursor) :
    cursor.skipLayout.rest.length ≤ cursor.rest.length := by
  rw [rest_skipLayout]
  exact (List.dropWhile_suffix isLayout).length_le

theorem length_rest_next_le (cursor : Cursor) :
    cursor.next.2.rest.length ≤ cursor.rest.length := by
  have skipped := length_rest_skipLayout_le cursor
  rw [rest_next, List.length_drop]
  omega

theorem rest_next_lt (cursor : Cursor) (more : cursor.next.1.kind ≠ .eof) :
    cursor.next.2.rest.length < cursor.rest.length := by
  have skipped := length_rest_skipLayout_le cursor
  cases remaining : cursor.skipLayout.rest with
  | nil =>
    have ended : cursor.next.1.kind = .eof := by simp [next, lexeme, remaining]
    exact absurd ended more
  | cons c rest =>
    have positive := Lexeme.length_starting_pos c rest
    rw [rest_next, List.length_drop]
    simp only [lexeme, remaining, List.length_cons] at skipped ⊢
    omega

/-- The tokens from the cursor up to and including the first end, and the cursor behind them. -/
def tokens (cursor : Cursor) : List Token × Cursor :=
  let step := cursor.next
  if step.1.kind = .eof then ([step.1], step.2)
  else
    let later := tokens step.2
    (step.1 :: later.1, later.2)
termination_by cursor.rest.length
decreasing_by exact rest_next_lt cursor (by assumption)

/-- At most `count` tokens from the cursor, none of them behind an end. -/
def take : Nat → Cursor → List Token × Cursor
  | 0, cursor => ([], cursor)
  | count + 1, cursor =>
    let step := cursor.next
    if step.1.kind = .eof then ([step.1], step.2)
    else
      let later := take count step.2
      (step.1 :: later.1, later.2)

def skipTokens : Nat → Cursor → Cursor
  | 0, cursor => cursor
  | count + 1, cursor => skipTokens count cursor.next.2

end Cursor

def tokenize (source : String) : List Token :=
  (Cursor.ofSource source).tokens.1

/-! ## Strict reading -/

inductive StrictError
  | illegal (diagnostic : Diagnostic)
  /-- An illegal token for which no diagnostic can be made. -/
  | unnamed (cause : Diagnostic.NoCodePoint)
deriving DecidableEq, Repr

def withoutIllegal (file : String) (tokens : List Token) : Except StrictError (List Token) :=
  match tokens.find? (fun token => token.kind = .illegal) with
  | none => .ok tokens
  | some token =>
    match Diagnostic.invalidText token.text (token.location file) with
    | .ok diagnostic => .error (.illegal diagnostic)
    | .error cause => .error (.unnamed cause)

def tokenizeAs (strict : Bool) (file source : String) : Except StrictError (List Token) :=
  if strict then withoutIllegal file (tokenize source) else .ok (tokenize source)

end MonkeySyntax
