import MonkeySyntax.Diagnostic

/-!
# Log records

Events are recorded at the lowest level.
-/

set_option autoImplicit false

namespace MonkeySyntax.CommandLine

inductive Level
  | debug
  | info
  | warning
  | error
deriving DecidableEq, Repr

namespace Level

def all : List Level :=
  [.debug, .info, .warning, .error]

def name : Level → String
  | .debug => "DEBUG"
  | .info => "INFO"
  | .warning => "WARNING"
  | .error => "ERROR"

def rank : Level → Nat
  | .debug => 10
  | .info => 20
  | .warning => 30
  | .error => 40

def ofName? (name : String) : Option Level :=
  all.find? (fun level => level.name = name)

end Level

structure Record where
  level : Level
  logger : String
  text : String
deriving DecidableEq, Repr

def Record.ofEvent (event : Event) : Record :=
  ⟨.debug, event.logger, event.text⟩

def Record.line (record : Record) : String :=
  s!"{record.level.name} {record.logger}: {record.text}\n"

def shownRecords (threshold : Level) (records : List Record) : String :=
  String.join
    ((records.filter (fun record => threshold.rank ≤ record.level.rank)).map Record.line)

end MonkeySyntax.CommandLine
