import MonkeySyntax.CommandLine.Run

/-!
# The program

On a terminal the interactive loop answers each line at once; otherwise standard input is read to
its end first.
-/

set_option autoImplicit false

open MonkeySyntax
open MonkeySyntax.CommandLine

namespace MonkeySyntax.Main

/-- The system's number for an error; some are handed over negated in 32 bits. -/
def errorNumber (code : UInt32) : Nat :=
  if code.toNat < 0x80000000 then code.toNat else 0x100000000 - code.toNat

def systemError (code : UInt32) (words : String) : AccessError :=
  match errorNumber code with
  | 2 => .missing
  | 20 => .notDirectory
  | 21 => .isDirectory
  | 36 => .nameTooLong
  | number => .system number words.capitalize

def accessError : IO.Error → AccessError
  | .noFileOrDirectory _ _ _ => .missing
  | .inappropriateType _ code words => systemError code words
  | .permissionDenied _ code words => systemError code words
  | .resourceExhausted _ code words => systemError code words
  | .invalidArgument _ code words => systemError code words
  | .otherError code words => systemError code words
  | other => .system 5 (toString other)

def openFile (path : String) : IO (Except AccessError (List UInt8)) := do
  if path.isEmpty then return .error .missing
  try
    return .ok (← IO.FS.readBinFile path).toList
  catch cause =>
    return .error (accessError cause)

partial def readAll (stream : IO.FS.Stream) (read : ByteArray) : IO ByteArray := do
  let bytes ← stream.read 65536
  if bytes.isEmpty then return read else readAll stream (read ++ bytes)

def write : Except Breakdown Outcome → IO UInt32
  | .ok outcome => do
    (← IO.getStderr).putStr outcome.stderr
    (← IO.getStdout).putStr outcome.stdout
    return outcome.status.toUInt32
  | .error cause => do
    (← IO.getStderr).putStrLn cause.message
    return statusErrors.toUInt32

partial def converse (level : Level) (prompt : String) : IO UInt32 := do
  let stdout ← IO.getStdout
  stdout.putStr prompt
  stdout.flush
  let line ← (← IO.getStdin).getLine
  if line.isEmpty then return statusOk.toUInt32
  let lines := [line.toList]
  (← IO.getStderr).putStr (shownRecords level ((Interactive.events lines).map Record.ofEvent))
  stdout.putStr (Interactive.reply line.toList)
  converse level prompt

def perform (plan : Plan) : IO UInt32 := do
  let stdin ← IO.getStdin
  match plan with
  | .perform level (.repl prompt) =>
    if ← stdin.isTty then converse level prompt
    else
      let bytes ← readAll stdin .empty
      write (plan.run .whole bytes.toList (fun _ => .error .missing))
  | .perform _ command =>
    let opened ← openFile (command.file?.getD "")
    write (plan.run .whole [] (fun _ => opened))
  | _ => write (plan.run .whole [] (fun _ => .error .missing))

end MonkeySyntax.Main

def main (words : List String) : IO UInt32 :=
  MonkeySyntax.Main.perform (plan words)
