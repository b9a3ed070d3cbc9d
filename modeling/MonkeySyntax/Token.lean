import MonkeySyntax.Text.Quoted

/-!
# Tokens

A token is a kind, the exact source text it was read from, and the line and column reported for it. 
The end of a text is a token too, with an empty text.
-/

set_option autoImplicit false

namespace MonkeySyntax

inductive Kind
  | illegal
  | eof
  | ident
  | int
  | assign
  | plus
  | minus
  | bang
  | asterisk
  | slash
  | lt
  | gt
  | eq
  | notEq
  | comma
  | semicolon
  | lparen
  | rparen
  | lbrace
  | rbrace
  | fnWord
  | letWord
  | trueWord
  | falseWord
  | ifWord
  | elseWord
  | returnWord
deriving DecidableEq, Repr, Inhabited

def Kind.name : Kind → String
  | .illegal => "ILLEGAL"
  | .eof => "EOF"
  | .ident => "IDENT"
  | .int => "INT"
  | .assign => "ASSIGN"
  | .plus => "PLUS"
  | .minus => "MINUS"
  | .bang => "BANG"
  | .asterisk => "ASTERISK"
  | .slash => "SLASH"
  | .lt => "LT"
  | .gt => "GT"
  | .eq => "EQ"
  | .notEq => "NOT_EQ"
  | .comma => "COMMA"
  | .semicolon => "SEMICOLON"
  | .lparen => "LPAREN"
  | .rparen => "RPAREN"
  | .lbrace => "LBRACE"
  | .rbrace => "RBRACE"
  | .fnWord => "FUNCTION"
  | .letWord => "LET"
  | .trueWord => "TRUE"
  | .falseWord => "FALSE"
  | .ifWord => "IF"
  | .elseWord => "ELSE"
  | .returnWord => "RETURN"

def Kind.all : List Kind :=
  [.illegal, .eof, .ident, .int, .assign, .plus, .minus, .bang, .asterisk, .slash, .lt, .gt, .eq,
   .notEq, .comma, .semicolon, .lparen, .rparen, .lbrace, .rbrace, .fnWord, .letWord, .trueWord,
   .falseWord, .ifWord, .elseWord, .returnWord]

def Kind.number (kind : Kind) : Nat :=
  kind.ctorIdx + 1

def Kind.ofName? (name : String) : Option Kind :=
  Kind.all.find? (fun kind => kind.name = name)

theorem Kind.mem_all (kind : Kind) : kind ∈ Kind.all := by
  cases kind <;> decide

structure Location where
  file : String
  line : Int
  column : Int
deriving DecidableEq, Repr, Inhabited

def Location.text (location : Location) : String :=
  s!"{location.file}:{location.line}:{location.column}"

structure Token where
  kind : Kind
  text : String
  line : Int
  column : Int
deriving DecidableEq, Repr, Inhabited

def Token.location (token : Token) (file : String) : Location :=
  ⟨file, token.line, token.column⟩

/-- The kind's name around the quoted text, such as `LET('let')`. -/
def Token.label (token : Token) : String :=
  s!"{token.kind.name}({Text.quoted token.text})"

/-- The line that stands for the token in a listing; the text appears as it is. -/
def Token.listing (token : Token) : String :=
  s!"\x7bType:{token.kind.name} Literal:{token.text} Line:{token.line} Column:{token.column}\x7d"

end MonkeySyntax
