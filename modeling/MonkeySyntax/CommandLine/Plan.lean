import MonkeySyntax.CommandLine.Manual
import MonkeySyntax.FileTree.Source
import MonkeySyntax.Interactive

/-!
# Plans

What a command line asks for, decided before any file is opened.  Help and complaints come from the
grammar in which they arise, except that words without a place are always refused by the main one,
after everything else was in order.
-/

set_option autoImplicit false

namespace MonkeySyntax.CommandLine

inductive Command
  | repl (prompt : String)
  | tokenize (strict : Bool) (file : String)
  | parse (file : String)
deriving DecidableEq, Repr

/-- The file that the command reads; without one it reads standard input. -/
def Command.file? : Command → Option String
  | .repl _ => none
  | .tokenize _ file => some file
  | .parse file => some file

inductive Breakdown
  | levelWithoutValue
  | promptWithoutValue
  | embeddedNull
deriving DecidableEq, Repr

def Breakdown.message : Breakdown → String
  | .levelWithoutValue => "attribute name must be string, not 'list'"
  | .promptWithoutValue => "string argument expected, got 'list'"
  | .embeddedNull => ReadError.embeddedNull.message

inductive Plan
  | display (text : String)
  | refuse (text : String)
  | perform (level : Level) (command : Command)
  | breakOff (cause : Breakdown)
deriving DecidableEq, Repr

def Grammar.complaintText (grammar : Grammar) (complaint : Complaint) : String :=
  s!"{grammar.usage}{grammar.program}: error: {complaint.message}\n"

def Grammar.planOfStop (grammar : Grammar) : Stop → Plan
  | .help => .display (grammar.usage ++ grammar.details)
  | .version => .display s!"{mainGrammar.program} {version}\n"
  | .complaint complaint => .refuse (grammar.complaintText complaint)

/-- The level that was asked for; warnings are shown if none was. -/
def Reading.level (reading : Reading) : Except Breakdown Level :=
  match reading.lastValue? "--log-level" with
  | none => .ok .warning
  | some none => .error .levelWithoutValue
  | some (some name) => .ok ((Level.ofName? name).getD .warning)

def Reading.prompt (reading : Reading) : Except Breakdown String :=
  match reading.lastValue? "--prompt" with
  | none => .ok Interactive.defaultPrompt
  | some none => .error .promptWithoutValue
  | some (some prompt) => .ok prompt

def planRun (surplus : List String) (level : Except Breakdown Level)
    (command : Except Breakdown Command) : Plan :=
  match surplus with
  | [] =>
    match level, command with
    | .error cause, _ => .breakOff cause
    | .ok _, .error cause => .breakOff cause
    | .ok level, .ok command => .perform level command
  | _ => .refuse (mainGrammar.complaintText (.unrecognized surplus))

def planCommand (outer : Reading) (grammar : Grammar) (words : List String)
    (command : Reading → Except Breakdown Command) : Plan :=
  match grammar.read words with
  | .error stop => grammar.planOfStop stop
  | .ok inner => planRun (outer.surplus ++ inner.surplus) outer.level (command inner)

def plan (words : List String) : Plan :=
  match mainGrammar.read words with
  | .error stop => mainGrammar.planOfStop stop
  | .ok outer =>
    match outer.operands with
    | "repl" :: words => planCommand outer replGrammar words (fun inner => inner.prompt.map .repl)
    | "tokenize" :: words =>
      planCommand outer tokenizeGrammar words
        (fun inner => .ok (.tokenize (inner.has "--strict") (inner.operands.headD "")))
    | "parse" :: words =>
      planCommand outer parseGrammar words (fun inner => .ok (.parse (inner.operands.headD "")))
    | _ => .refuse (mainGrammar.complaintText (.missingOperand "command"))

end MonkeySyntax.CommandLine
