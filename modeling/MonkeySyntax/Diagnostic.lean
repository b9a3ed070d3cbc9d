import MonkeySyntax.Token

/-!
# Diagnostics

Two kinds arise from source text: a token that the grammar does not allow (code P001) and a
character that no token starts with (code L001).
-/

set_option autoImplicit false

namespace MonkeySyntax

structure Diagnostic where
  message : String
  location : Location
  severity : String := "error"
  code? : Option String := none
  help? : Option String := none
  suggestions : List String := []
deriving DecidableEq, Repr, Inhabited

namespace Diagnostic

def heading (diagnostic : Diagnostic) : String :=
  match diagnostic.code? with
  | none => diagnostic.severity
  | some code => s!"{diagnostic.severity}[{code}]"

def helpLines (diagnostic : Diagnostic) : List String :=
  match diagnostic.help? with
  | none => []
  | some help => if help = "" then [] else [s!"  help: {help}"]

def lines (diagnostic : Diagnostic) : List String :=
  [s!"{diagnostic.heading}: {diagnostic.message}", s!"  --> {diagnostic.location.text}"]
    ++ diagnostic.helpLines
    ++ diagnostic.suggestions.map (fun suggestion => s!"  suggestion: {suggestion}")

def text (diagnostic : Diagnostic) : String :=
  String.join (diagnostic.lines.map (fun line => line ++ "\n"))

/-! ## A token that was not expected -/

def suggestionsFor : Kind → List String
  | .ident => ["Add a name after 'let', e.g. 'let x = 5;'"]
  | .assign => ["Add an assignment operator '='"]
  | .semicolon => ["Add a semicolon ';' to end the statement"]
  | _ => []

def unexpectedToken (expected : Kind) (found : Token) (file : String) : Diagnostic where
  message := s!"expected next token to be {expected.name}, got {found.kind.name} instead"
  location := found.location file
  code? := some "P001"
  help? := some <| s!"The parser expected to see {expected.name} at this position, " ++
    s!"but found {found.kind.name} instead."
  suggestions := suggestionsFor expected

/-! ## A character that starts no token -/

/-- Characters that other languages give a meaning, and what is missing here. -/
def absentOperators : List (String × String) :=
  [("&", "Monkey has no '&' or '&&' operator"),
   ("|", "Monkey has no '|' or '||' operator"),
   ("%", "Monkey has no modulo operator"),
   ("\"", "Monkey has no string literals"),
   ("[", "Monkey has no array literals"),
   ("]", "Monkey has no array literals")]

/-- An unprintable text is named by its code point, which only a single character has. -/
structure NoCodePoint where
  length : Nat
deriving DecidableEq, Repr

def NoCodePoint.message (cause : NoCodePoint) : String :=
  s!"ord() expected a character, but string of length {cause.length} found"

/-- At least four upper-case hexadecimal digits behind `U+`. -/
def codePointName (c : Char) : String :=
  let width := if c.toNat < 0x10000 then 4 else if c.toNat < 0x100000 then 5 else 6
  "U+" ++ String.ofList ((Text.hexDigits width c.toNat).map Char.toUpper)

def invalidTextHelp (text : String) : Except NoCodePoint String :=
  if text.toList.all Text.isPrintable then
    .ok s!"The character '{text}' is not valid in Monkey source code."
  else
    match text.toList with
    | [c] => .ok s!"Non-printable character (Unicode: {codePointName c}) is not allowed."
    | chars => .error ⟨chars.length⟩

def invalidText (text : String) (location : Location) : Except NoCodePoint Diagnostic :=
  match invalidTextHelp text with
  | .error cause => .error cause
  | .ok help => .ok {
      message := s!"Invalid character: '{text}'"
      location := location
      code? := some "L001"
      help? := some help
      suggestions := (absentOperators.lookup text).toList }

end Diagnostic

/-! ## Events

What a run of the scanner and the parser does, in the order in which it happens. -/

inductive Event
  | read (token : Token)
  | skipped (token : Token)
  | reported (diagnostic : Diagnostic)
deriving DecidableEq, Repr

namespace Event

def logger : Event → String
  | .read _ => "monkey.lexer.lexer"
  | .skipped _ => "monkey.parser.parser"
  | .reported _ => "monkey.parser.parser"

def text : Event → String
  | .read token => s!"{token.label} at {token.line}:{token.column}"
  | .skipped token =>
    s!"skipping unsupported token {token.label} at {token.line}:{token.column}"
  | .reported diagnostic => s!"{diagnostic.message} at {diagnostic.location.text}"

end Event

end MonkeySyntax
