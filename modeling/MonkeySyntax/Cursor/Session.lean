import MonkeySyntax.TokenStream

/-!
# Sessions with a cursor

The operations of a caller as one type, so that any order of operations is a list of steps.
-/

set_option autoImplicit false

namespace MonkeySyntax.Cursor

inductive Step
  | next
  | drain
  /-- Read at most so many tokens, and none behind the end. -/
  | take (count : Nat)
  | advance
  | peek
  | skipLayout
  | readWord
  | readNumber
deriving DecidableEq, Repr

inductive Reply
  | done
  | token (token : Token)
  | tokens (tokens : List Token)
  | char (char? : Option Char)
  | text (text : String)
deriving DecidableEq, Repr

def step (cursor : Cursor) : Step → Reply × Cursor
  | .next => (.token cursor.next.1, cursor.next.2)
  | .drain => (.tokens cursor.tokens.1, cursor.tokens.2)
  | .take count => (.tokens (cursor.take count).1, (cursor.take count).2)
  | .advance => (.done, cursor.advance)
  | .peek => (.char cursor.peek?, cursor)
  | .skipLayout => (.done, cursor.skipLayout)
  | .readWord => (.text (cursor.takeRun isLetter).1, (cursor.takeRun isLetter).2)
  | .readNumber => (.text (cursor.takeRun isDigit).1, (cursor.takeRun isDigit).2)

def after : Cursor → List Step → Cursor
  | cursor, [] => cursor
  | cursor, step :: steps => after (cursor.step step).2 steps

def session : Cursor → List Step → List (Reply × Cursor)
  | _, [] => []
  | cursor, step :: steps =>
    let outcome := cursor.step step
    outcome :: session outcome.2 steps

end MonkeySyntax.Cursor
