import MonkeySyntax.Token

/-!
# Lexemes

Which token a text starts with, once layout has been skipped.
-/

set_option autoImplicit false

namespace MonkeySyntax

/-! ## The alphabet

The signs `=` and `!` are in no table, because the next character decides what they mean. -/

def isLetter (c : Char) : Bool :=
  ('a' ≤ c && c ≤ 'z') || ('A' ≤ c && c ≤ 'Z') || c == '_'

def isDigit (c : Char) : Bool :=
  '0' ≤ c && c ≤ '9'

def layoutChars : List Char :=
  [' ', '\t', '\n', '\r']

def isLayout (c : Char) : Bool :=
  layoutChars.contains c

def symbols : List (Char × Kind) :=
  [('+', .plus), ('-', .minus), ('*', .asterisk), ('/', .slash), ('<', .lt), ('>', .gt),
   (',', .comma), (';', .semicolon), ('(', .lparen), (')', .rparen), ('\x7b', .lbrace),
   ('\x7d', .rbrace)]

def symbolKind? (c : Char) : Option Kind :=
  symbols.lookup c

def keywords : List (String × Kind) :=
  [("fn", .fnWord), ("let", .letWord), ("true", .trueWord), ("false", .falseWord),
   ("if", .ifWord), ("else", .elseWord), ("return", .returnWord)]

/-- The kind of a whole run of letters: reserved words are matched exactly. -/
def wordKind (word : String) : Kind :=
  (keywords.lookup word).getD .ident

def Kind.isKeyword (kind : Kind) : Bool :=
  keywords.any (fun entry => entry.2 = kind)

/-! ## The first lexeme of a text -/

structure Lexeme where
  kind : Kind
  chars : List Char
deriving DecidableEq, Repr, Inhabited

/-- A sign that means something else when `=` follows it. -/
def Lexeme.ofSign (alone withEqual : Kind) (sign : Char) (rest : List Char) : Lexeme :=
  if rest.head? = some '=' then ⟨withEqual, [sign, '=']⟩ else ⟨alone, [sign]⟩

def Lexeme.ofWord (word : List Char) : Lexeme :=
  ⟨wordKind (String.ofList word), word⟩

/-- The lexeme that starts with `c` in a text that goes on with `rest`. -/
def Lexeme.starting (c : Char) (rest : List Char) : Lexeme :=
  if c = '=' then .ofSign .assign .eq c rest
  else if c = '!' then .ofSign .bang .notEq c rest
  else
    match symbolKind? c with
    | some kind => ⟨kind, [c]⟩
    | none =>
      if isLetter c then .ofWord (c :: rest.takeWhile isLetter)
      else if isDigit c then ⟨.int, c :: rest.takeWhile isDigit⟩
      else ⟨.illegal, [c]⟩

theorem Lexeme.length_ofSign_pos (alone withEqual : Kind) (sign : Char) (rest : List Char) :
    0 < (Lexeme.ofSign alone withEqual sign rest).chars.length := by
  unfold Lexeme.ofSign
  split <;> simp

theorem Lexeme.length_starting_pos (c : Char) (rest : List Char) :
    0 < (Lexeme.starting c rest).chars.length := by
  unfold Lexeme.starting
  split
  · exact length_ofSign_pos _ _ _ _
  · split
    · exact length_ofSign_pos _ _ _ _
    · split
      · simp
      · split
        · simp [Lexeme.ofWord]
        · split <;> simp

end MonkeySyntax
