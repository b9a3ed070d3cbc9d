import MonkeySyntax.Text.Quoted

/-!
# File trees

A path is followed one component at a time; every component but the last must lead to a directory,
and so must the last one if a slash follows it.  Of the world outside the working directory only so
much is known as holds everywhere.
-/

set_option autoImplicit false

namespace MonkeySyntax

inductive AccessError
  | missing
  | notDirectory
  | isDirectory
  | nameTooLong
  /-- Any other cause, with the system's number and words for it. -/
  | system (number : Nat) (words : String)
deriving DecidableEq, Repr

namespace AccessError

def number : AccessError → Nat
  | .missing => 2
  | .notDirectory => 20
  | .isDirectory => 21
  | .nameTooLong => 36
  | .system number _ => number

def words : AccessError → String
  | .missing => "No such file or directory"
  | .notDirectory => "Not a directory"
  | .isDirectory => "Is a directory"
  | .nameTooLong => "File name too long"
  | .system _ words => words

def message (cause : AccessError) (path : String) : String :=
  s!"[Errno {cause.number}] {cause.words}: {Text.quoted path}"

end AccessError

inductive Entry
  | file (bytes : List UInt8)
  | directory
deriving DecidableEq, Repr

/-- Entries by the names that lead to them; the names of the working directory itself are `[]`. -/
structure FileTree where
  entries : List (List String × Entry) := []
deriving DecidableEq, Repr

inductive Place
  | inside (names : List String)
  | absolute (names : List String)
  /-- A directory above the working directory. -/
  | above
deriving DecidableEq, Repr

def maxNameSize : Nat :=
  255

def maxPathSize : Nat :=
  4095

/-- Where a component leads from the directory at the given names; no component leads above the
directory at `[]`. -/
def follow (names : List String) (component : String) : List String :=
  if component = "" ∨ component = "." then names
  else if component = ".." then names.dropLast
  else names ++ [component]

namespace FileTree

/-! ## Opening -/

/-- What every system has at the given names behind the root, as far as that is known. -/
def systemEntry? : List String → Option Entry
  | [] => some .directory
  | ["dev"] => some .directory
  | ["tmp"] => some .directory
  | ["dev", "null"] => some (.file [])
  | _ => none

def found? (tree : FileTree) : Place → Option Entry
  | .inside [] => some .directory
  | .inside names => tree.entries.lookup names
  | .absolute names => systemEntry? names
  | .above => some .directory

/-- Where one component leads from a directory; nothing is known about the names in the directories
above the working directory. -/
def descend (component : String) : Place → Option Place
  | .inside names =>
    if component = ".." ∧ names = [] then some .above else some (.inside (follow names component))
  | .absolute names => some (.absolute (follow names component))
  | .above => if component ∈ ["", ".", ".."] then some .above else none

def openFrom (tree : FileTree) (place : Place) : List String → Except AccessError (List UInt8)
  | [] =>
    match tree.found? place with
    | none => .error .missing
    | some .directory => .error .isDirectory
    | some (.file bytes) => .ok bytes
  | component :: components =>
    match tree.found? place with
    | none => .error .missing
    | some (.file _) => .error .notDirectory
    | some .directory =>
      if maxNameSize < component.utf8ByteSize then .error .nameTooLong
      else
        match descend component place with
        | none => .error .missing
        | some next => openFrom tree next components

def openFile (tree : FileTree) (path : String) : Except AccessError (List UInt8) :=
  if path = "" then .error .missing
  else if maxPathSize < path.utf8ByteSize then .error .nameTooLong
  else
    let start := if path.startsWith "/" then Place.absolute [] else .inside []
    openFrom tree start (path.splitOn "/")

/-! ## Writing -/

def arrivals (names : List String) : List String → List (List String)
  | [] => []
  | component :: components =>
    let next := follow names component
    next :: arrivals next components

def addDirectory (tree : FileTree) (names : List String) : FileTree :=
  match tree.found? (.inside names) with
  | some _ => tree
  | none => ⟨(names, .directory) :: tree.entries⟩

/-- Makes a directory and those on the way to it, also those that the path leaves again. -/
def makeDirectory (tree : FileTree) (path : String) : FileTree :=
  (arrivals [] (path.splitOn "/")).foldl addDirectory tree

def writeFile (tree : FileTree) (path : String) (bytes : List UInt8) : FileTree :=
  let places := arrivals [] (path.splitOn "/")
  ⟨(places.getLastD [], .file bytes) :: (places.dropLast.foldl addDirectory tree).entries⟩

end FileTree

end MonkeySyntax
