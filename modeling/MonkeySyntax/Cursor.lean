import MonkeySyntax.Lexeme

/-!
# Cursors

A cursor stands between the characters already passed and the rest of a text.  A line feed belongs
to the line it ends: only leaving it behind starts the next line at column one.

Every movement is a number of single advances, so what one advance keeps, all movements keep.
-/

set_option autoImplicit false

namespace MonkeySyntax

structure Cursor where
  offset : Nat
  line : Nat
  column : Nat
  /-- The characters from the current one to the end of the text. -/
  rest : List Char
deriving DecidableEq, Repr, Inhabited

namespace Cursor

def ofChars (source : List Char) : Cursor :=
  ⟨0, 1, 1, source⟩

def ofSource (source : String) : Cursor :=
  ofChars source.toList

def readOffset (cursor : Cursor) : Nat :=
  cursor.offset + 1

def current? (cursor : Cursor) : Option Char :=
  cursor.rest.head?

def peek? (cursor : Cursor) : Option Char :=
  cursor.rest.tail.head?

def advance (cursor : Cursor) : Cursor :=
  match cursor.rest with
  | [] => cursor
  | c :: rest =>
    if c = '\n' then ⟨cursor.offset + 1, cursor.line + 1, 1, rest⟩
    else ⟨cursor.offset + 1, cursor.line, cursor.column + 1, rest⟩

def advanceBy : Nat → Cursor → Cursor
  | 0, cursor => cursor
  | count + 1, cursor => advanceBy count cursor.advance

/-- The longest run of characters of a class at the cursor, and the cursor behind it. -/
def takeRun (member : Char → Bool) (cursor : Cursor) : String × Cursor :=
  let run := cursor.rest.takeWhile member
  (String.ofList run, cursor.advanceBy run.length)

def skipLayout (cursor : Cursor) : Cursor :=
  (cursor.takeRun isLayout).2

theorem rest_advance (cursor : Cursor) : cursor.advance.rest = cursor.rest.tail := by
  unfold advance
  cases h : cursor.rest with
  | nil => simpa using h
  | cons c rest =>
    by_cases newline : c = '\n'
    · simp [newline]
    · simp [newline]

theorem rest_advanceBy (count : Nat) (cursor : Cursor) :
    (cursor.advanceBy count).rest = cursor.rest.drop count := by
  induction count generalizing cursor with
  | zero => rfl
  | succ count ih => rw [advanceBy, ih, rest_advance, List.drop_tail]

theorem rest_takeRun (member : Char → Bool) (cursor : Cursor) :
    (cursor.takeRun member).2.rest = cursor.rest.dropWhile member := by
  have whole := List.takeWhile_append_dropWhile (p := member) (l := cursor.rest)
  calc
    (cursor.takeRun member).2.rest
        = cursor.rest.drop (cursor.rest.takeWhile member).length := rest_advanceBy _ _
    _ = (cursor.rest.takeWhile member ++ cursor.rest.dropWhile member).drop
          (cursor.rest.takeWhile member).length := by rw [whole]
    _ = cursor.rest.dropWhile member := List.drop_left

theorem rest_skipLayout (cursor : Cursor) :
    cursor.skipLayout.rest = cursor.rest.dropWhile isLayout :=
  rest_takeRun isLayout cursor

end Cursor

end MonkeySyntax
