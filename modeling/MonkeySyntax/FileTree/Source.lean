import MonkeySyntax.FileTree
import MonkeySyntax.Parser
import MonkeySyntax.Text.Input

/-!
# Source files

A source file holds UTF-8, read strictly, with any of the three line ends.  Its path is also the
name of the file in every location.
-/

set_option autoImplicit false

namespace MonkeySyntax

inductive ReadError
  /-- The path holds U+0000, which the path of a file cannot hold. -/
  | embeddedNull
  | access (cause : AccessError) (path : String)
  | malformed (fault : Text.Utf8.Malformed)
deriving DecidableEq, Repr

def ReadError.message : ReadError → String
  | .embeddedNull => "embedded null byte"
  | .access cause path => cause.message path
  | .malformed fault => fault.message

namespace SourceFile

def textOf (bytes : List UInt8) : Except Text.Utf8.Malformed String :=
  let decoded := Text.Utf8.decode bytes
  match decoded.fault? with
  | some fault => .error fault
  | none => .ok (String.ofList (Text.unifyLineEnds decoded.chars))

def read (path : String) (opened : Except AccessError (List UInt8)) : Except ReadError String :=
  if '\x00' ∈ path.toList then .error .embeddedNull
  else
    match opened with
    | .error cause => .error (.access cause path)
    | .ok bytes =>
      match textOf bytes with
      | .error fault => .error (.malformed fault)
      | .ok text => .ok text

end SourceFile

namespace FileTree

def readSource (tree : FileTree) (path : String) : Except ReadError String :=
  SourceFile.read path (tree.openFile path)

def tokenizeFile (tree : FileTree) (strict : Bool) (path : String) :
    Except ReadError (Except StrictError (List Token)) :=
  (tree.readSource path).map (tokenizeAs strict path)

def parseFile (tree : FileTree) (path : String) : Except ReadError (Except Diagnostic Node) :=
  (tree.readSource path).map (fun source => parseSource source path)

end FileTree

end MonkeySyntax
