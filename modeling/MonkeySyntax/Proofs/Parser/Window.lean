import MonkeySyntax.Proofs.Parser.Segmentation
import MonkeySyntax.Proofs.TokenStream.Placement

/-!
# What a parser has in front of it

`ahead` numbers all tokens, beginning with the current one, and `Faces tokens ending` says that they
are `tokens` and then `ending` again and again.
-/

set_option autoImplicit false

namespace MonkeySyntax.Parser

def ahead (parser : Parser) : Nat → Token
  | 0 => parser.current
  | 1 => parser.upcoming
  | count + 2 => parser.cursor.pull count

def Faces (parser : Parser) (tokens : List Token) (ending : Token) : Prop :=
  ∀ count, parser.ahead count = tokens.getD count ending

theorem ahead_advance (parser : Parser) (count : Nat) :
    parser.advance.ahead count = parser.ahead (count + 1) := by
  match count with
  | 0 => rfl
  | 1 => rfl
  | count + 2 => exact parser.cursor.pull_succ count

theorem ahead_ofCursor (cursor : Cursor) (file : String) (count : Nat) :
    (ofCursor cursor file).ahead count = cursor.pull count := by
  match count with
  | 0 => rfl
  | 1 => rfl
  | count + 2 => rfl

theorem faces_ofCursor (before rest : List Char) (file : String) (pieces : List Piece)
    (last : List Char) (whole : Decomposes rest pieces last) :
    (ofCursor (.behind before rest) file).Faces (tokensBehind before pieces)
      (Lexeme.ending.tokenBehind (before ++ rest)) := by
  intro count
  rw [ahead_ofCursor]
  exact Cursor.pull_behind before rest pieces last whole count

theorem getD_tail (tokens : List Token) (ending : Token) (count : Nat) :
    tokens.tail.getD count ending = tokens.getD (count + 1) ending := by
  cases tokens with
  | nil => simp
  | cons token tokens => simp

/-- The second parser has recorded something else, but sees and will see the same tokens. -/
structure SameWindow (parser other : Parser) : Prop where
  current : other.current = parser.current
  upcoming : other.upcoming = parser.upcoming
  cursor : other.cursor = parser.cursor

theorem sameWindow_report (parser : Parser) (diagnostic : Diagnostic) :
    SameWindow parser (parser.report diagnostic) :=
  ⟨rfl, rfl, rfl⟩

theorem sameWindow_skipUnsupported (parser : Parser) :
    SameWindow parser parser.skipUnsupported.2 :=
  ⟨rfl, rfl, rfl⟩

namespace Faces

variable {parser : Parser} {tokens : List Token} {ending : Token}

theorem current_eq (faces : parser.Faces tokens ending) :
    parser.current = tokens.headD ending := by
  have here := faces 0
  cases tokens with
  | nil => exact here
  | cons token tokens => exact here

theorem upcoming_eq (faces : parser.Faces tokens ending) :
    parser.upcoming = tokens.tail.headD ending := by
  have next := faces 1
  cases tokens with
  | nil => exact next
  | cons token tokens =>
    cases tokens with
    | nil => exact next
    | cons other tokens => exact next

theorem advance (faces : parser.Faces tokens ending) :
    parser.advance.Faces tokens.tail ending := by
  intro count
  rw [ahead_advance, faces (count + 1), getD_tail]

theorem of_sameWindow {other : Parser} (faces : parser.Faces tokens ending)
    (same : SameWindow parser other) : other.Faces tokens ending := by
  obtain ⟨current, upcoming, cursor⟩ := same
  intro count
  rw [← faces count]
  match count with
  | 0 => exact current
  | 1 => exact upcoming
  | count + 2 => rw [ahead, ahead, cursor]

theorem advances (faces : parser.Faces tokens ending) (count : Nat) :
    (Parser.advance^[count] parser).Faces (tokens.drop count) ending := by
  induction count generalizing parser tokens with
  | zero => exact faces
  | succ count ih =>
    rw [Function.iterate_succ_apply, ← List.drop_tail]
    exact ih faces.advance

theorem skipToSemicolon_eq (faces : parser.Faces tokens ending) (ended : ending.kind = .eof)
    (inside : ∀ token ∈ tokens, token.kind ≠ .eof) :
    parser.skipToSemicolon = Parser.advance^[(tokens.takeWhile passesOver).length] parser := by
  fun_induction Parser.skipToSemicolon parser generalizing tokens with
  | case1 parser stops =>
    cases tokens with
    | nil => rfl
    | cons token tokens =>
      have here : parser.current = token := faces.current_eq
      have more := inside token List.mem_cons_self
      have semicolon : token.kind = .semicolon := by
        rw [here] at stops
        exact stops.resolve_right more
      simp [passesOver, semicolon]
  | case2 parser goes ih =>
    cases tokens with
    | nil =>
      have here : parser.current = ending := faces.current_eq
      rw [here] at goes
      exact absurd (Or.inr ended) goes
    | cons token tokens =>
      have here : parser.current = token := faces.current_eq
      rw [here] at goes
      have other : token.kind ≠ .semicolon := fun semicolon => goes (Or.inl semicolon)
      have later := ih faces.advance
        (fun next member => inside next (List.mem_cons_of_mem _ member))
      rw [later, List.takeWhile_cons, if_pos (by simp [passesOver, other]), List.length_cons,
        Function.iterate_succ_apply]
      rfl

theorem skipToSemicolon (faces : parser.Faces tokens ending) (ended : ending.kind = .eof)
    (inside : ∀ token ∈ tokens, token.kind ≠ .eof) :
    parser.skipToSemicolon.Faces (tokens.dropWhile passesOver) ending := by
  have split := List.takeWhile_append_dropWhile (p := passesOver) (l := tokens)
  have rest : tokens.drop (tokens.takeWhile passesOver).length = tokens.dropWhile passesOver :=
    calc
      tokens.drop (tokens.takeWhile passesOver).length
          = (tokens.takeWhile passesOver ++ tokens.dropWhile passesOver).drop
              (tokens.takeWhile passesOver).length := by rw [split]
      _ = tokens.dropWhile passesOver := List.drop_left
  rw [faces.skipToSemicolon_eq ended inside, ← rest]
  exact faces.advances _

end Faces

theorem skipToSemicolon_frame (parser : Parser) :
    parser.skipToSemicolon.file = parser.file ∧
      parser.skipToSemicolon.diagnostics = parser.diagnostics := by
  fun_induction skipToSemicolon parser with
  | case1 parser stops => exact ⟨rfl, rfl⟩
  | case2 parser goes ih => exact ih

end MonkeySyntax.Parser
