import MonkeySyntax.Node

/-!
# Walks

A walk enters a node before its children, and stops at the first foreign node; what it noted before
is kept.
-/

set_option autoImplicit false

namespace MonkeySyntax

/-- The notes made so far, and the foreign node that ended the walk, if one did. -/
structure Walk (Note : Type) where
  visits : List Note
  stopped? : Option UnknownNode
deriving DecidableEq, Repr

namespace Walk

variable {Note : Type}

def nothing : Walk Note := ⟨[], none⟩

def enter (note : Note) (walk : Walk Note) : Walk Note :=
  ⟨note :: walk.visits, walk.stopped?⟩

def andThen (first second : Walk Note) : Walk Note :=
  match first.stopped? with
  | some _ => first
  | none => ⟨first.visits ++ second.visits, second.stopped?⟩

def inTurn (walks : List (Walk Note)) : Walk Note :=
  walks.foldr andThen nothing

end Walk

namespace Node

def walkNoting {Note : Type} (note : NodeForm → Node → Note) (node : Node) : Walk Note :=
  match node.form? with
  | none => ⟨[], node.unknown?⟩
  | some form =>
    (Walk.inTurn (node.children.attach.map (fun child => walkNoting note child.1))).enter
      (note form node)
termination_by sizeOf node
decreasing_by exact sizeOf_lt_of_mem_children child.2

end Node

structure Visit where
  form : NodeForm
  text : String
deriving DecidableEq, Repr

def Node.walk (tree : Node) : Walk Visit :=
  tree.walkNoting (fun form node => ⟨form, node.anchorText⟩)

end MonkeySyntax
