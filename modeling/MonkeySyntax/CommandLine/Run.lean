import MonkeySyntax.CommandLine.Plan
import MonkeySyntax.Node.Printer

/-!
# Running commands

A command is carried out to its end before its own output is written, so the records of its events
come first.

The end of standard input is only noticed when a line is asked for and none is left.  A malformed
sequence inside the input therefore stops everything before the first line, whereas a sequence that
the end cuts off is noticed after the complete lines.
-/

set_option autoImplicit false

namespace MonkeySyntax.CommandLine

structure Outcome where
  status : Nat
  stdout : String
  stderr : String
deriving DecidableEq, Repr

def statusOk : Nat :=
  0

def statusErrors : Nat :=
  1

/-- The source text could not be read, or the command line was refused. -/
def statusUnreadable : Nat :=
  2

/-- How the program was started: as a whole, or through its command line alone. -/
inductive Start
  | whole
  | commandLine
deriving DecidableEq, Repr

def Start.logger : Start → String
  | .whole => "monkey.cli"
  | .commandLine => "__main__"

def unreadableRecord (start : Start) (title message : String) : Record :=
  ⟨.error, start.logger, s!"cannot read {title}: {message}"⟩

/-! ## Commands on files -/

def tokenizeText (level : Level) (strict : Bool) (file source : String) : Outcome :=
  let events := (tokenize source).map (fun token => Record.ofEvent (.read token))
  let log := shownRecords level events
  match tokenizeAs strict file source with
  | .ok tokens =>
    ⟨statusOk, String.join (tokens.map (fun token => token.listing ++ "\n")), log⟩
  | .error (.illegal diagnostic) => ⟨statusErrors, "", log ++ diagnostic.text ++ "\n"⟩
  | .error (.unnamed cause) => ⟨statusErrors, "", log ++ cause.message ++ "\n"⟩

/-- The tree as text; a parser builds no tree that cannot be printed. -/
def renderedText (tree : Node) : String :=
  match tree.render with
  | .ok text => text
  | .error unknown => unknown.message

def parseText (level : Level) (file source : String) : Outcome :=
  let parsed := (Parser.ofSource source file).parseProgram
  let log := shownRecords level (parsed.2.events.toList.map Record.ofEvent)
  let report := String.join (parsed.2.diagnostics.toList.map Diagnostic.text)
  ⟨if parsed.2.hasErrors then statusErrors else statusOk, renderedText parsed.1 ++ "\n",
    log ++ report⟩

def runOnFile (start : Start) (level : Level) (file : String)
    (opened : Except AccessError (List UInt8)) (run : String → Outcome) :
    Except Breakdown Outcome :=
  match SourceFile.read file opened with
  | .ok source => .ok (run source)
  | .error .embeddedNull => .error .embeddedNull
  | .error cause =>
    .ok ⟨statusUnreadable, "", shownRecords level [unreadableRecord start file cause.message]⟩

/-! ## Standard input -/

structure LineSource where
  lines : List (List Char)
  fault? : Option Text.Utf8.Malformed
deriving DecidableEq, Repr

/-- The text without a carriage return at its end, which may yet be half of a line end. -/
def holdBack (text : List Char) : List Char :=
  if text.getLast? = some '\r' then text.dropLast else text

def isComplete (line : List Char) : Bool :=
  line.getLast? = some '\n'

def LineSource.ofBytes (bytes : List UInt8) : LineSource :=
  let decoded := Text.Utf8.decode bytes
  match decoded.fault? with
  | none => ⟨Text.splitLines (Text.unifyLineEnds decoded.chars), none⟩
  | some fault =>
    if fault.reason = .truncated then
      let lines := Text.splitLines (Text.unifyLineEnds (holdBack decoded.chars))
      ⟨lines.filter isComplete, some { fault with position := 0 }⟩
    else ⟨[], some fault⟩

def runRepl (start : Start) (level : Level) (prompt : String) (source : LineSource) : Outcome :=
  let log := shownRecords level ((Interactive.events source.lines).map Record.ofEvent)
  let written := Interactive.transcript prompt source.lines
  match source.fault? with
  | none => ⟨statusOk, written, log⟩
  | some fault =>
    ⟨statusUnreadable, written,
      log ++ shownRecords level [unreadableRecord start "<stdin>" fault.message]⟩

/-! ## Whole runs -/

def Command.run (start : Start) (level : Level) (stdin : List UInt8)
    (opened : String → Except AccessError (List UInt8)) : Command → Except Breakdown Outcome
  | .repl prompt => .ok (runRepl start level prompt (.ofBytes stdin))
  | .tokenize strict file =>
    runOnFile start level file (opened file) (tokenizeText level strict file)
  | .parse file => runOnFile start level file (opened file) (parseText level file)

def Plan.run (start : Start) (stdin : List UInt8)
    (opened : String → Except AccessError (List UInt8)) : Plan → Except Breakdown Outcome
  | .display text => .ok ⟨statusOk, text, ""⟩
  | .refuse text => .ok ⟨statusUnreadable, "", text⟩
  | .perform level command => command.run start level stdin opened
  | .breakOff cause => .error cause

def runIn (tree : FileTree) (start : Start) (stdin : List UInt8) (words : List String) :
    Except Breakdown Outcome :=
  (plan words).run start stdin tree.openFile

end MonkeySyntax.CommandLine
