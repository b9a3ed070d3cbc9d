import MonkeySyntax.Token

/-!
# Syntax trees

A tree may be put together by hand, so every slot takes any node.  A foreign node stands for a form
that the library does not know; whatever it holds besides its text is out of reach, so it has no
children.
-/

set_option autoImplicit false

namespace MonkeySyntax

inductive Node
  | program (statements : List Node)
  | letStatement (anchor : Token) (name : Node) (value? : Option Node)
  | returnStatement (anchor : Token) (value? : Option Node)
  | identifier (anchor : Token) (value : String)
  | foreign (form text : String)
deriving Repr, Inhabited

inductive NodeForm
  | program
  | letStatement
  | returnStatement
  | identifier
deriving DecidableEq, Repr

namespace NodeForm

def all : List NodeForm :=
  [.program, .letStatement, .returnStatement, .identifier]

def name : NodeForm → String
  | .program => "Program"
  | .letStatement => "LetStatement"
  | .returnStatement => "ReturnStatement"
  | .identifier => "Identifier"

def tag : NodeForm → String
  | .program => "PROGRAM"
  | .letStatement => "LET_STATEMENT"
  | .returnStatement => "RETURN_STATEMENT"
  | .identifier => "IDENTIFIER"

end NodeForm

namespace Node

def form? : Node → Option NodeForm
  | .program _ => some .program
  | .letStatement _ _ _ => some .letStatement
  | .returnStatement _ _ => some .returnStatement
  | .identifier _ _ => some .identifier
  | .foreign _ _ => none

/-- The text of the token on which the node is anchored; a program has that of its first
statement, or none. -/
def anchorText : Node → String
  | .program [] => ""
  | .program (first :: _) => first.anchorText
  | .letStatement anchor _ _ => anchor.text
  | .returnStatement anchor _ => anchor.text
  | .identifier anchor _ => anchor.text
  | .foreign _ text => text

def children : Node → List Node
  | .program statements => statements
  | .letStatement _ name value? => name :: value?.toList
  | .returnStatement _ value? => value?.toList
  | .identifier _ _ => []
  | .foreign _ _ => []

theorem sizeOf_lt_of_mem_children {node child : Node} (member : child ∈ node.children) :
    sizeOf child < sizeOf node := by
  cases node with
  | program statements =>
    have smaller : sizeOf child < sizeOf statements := List.sizeOf_lt_of_mem member
    simp only [program.sizeOf_spec]
    omega
  | letStatement anchor name value? =>
    simp only [letStatement.sizeOf_spec]
    rcases List.mem_cons.mp member with rfl | value
    · omega
    · obtain rfl := Option.mem_toList.mp value
      simp only [Option.some.sizeOf_spec]
      omega
  | returnStatement anchor value? =>
    simp only [returnStatement.sizeOf_spec]
    obtain rfl := Option.mem_toList.mp member
    simp only [Option.some.sizeOf_spec]
    omega
  | identifier | foreign => contradiction

/-! ## Equality -/

mutual
def same : Node → Node → Bool
  | .program statements, .program others => sameAll statements others
  | .letStatement anchor name value?, .letStatement anchor' name' value?' =>
    anchor = anchor' && same name name' && sameSlot value? value?'
  | .returnStatement anchor value?, .returnStatement anchor' value?' =>
    anchor = anchor' && sameSlot value? value?'
  | .identifier anchor value, .identifier anchor' value' => anchor = anchor' && value = value'
  | .foreign form text, .foreign form' text' => form = form' && text = text'
  | _, _ => false

def sameAll : List Node → List Node → Bool
  | [], [] => true
  | node :: nodes, other :: others => same node other && sameAll nodes others
  | _, _ => false

def sameSlot : Option Node → Option Node → Bool
  | none, none => true
  | some node, some other => same node other
  | _, _ => false
end

mutual
theorem same_iff (node other : Node) : same node other = true ↔ node = other := by
  cases node <;> cases other <;>
    simp [same, sameAll_iff, sameSlot_iff, same_iff, and_assoc]

theorem sameAll_iff (nodes others : List Node) : sameAll nodes others = true ↔ nodes = others := by
  cases nodes <;> cases others <;> simp [sameAll, same_iff, sameAll_iff]

theorem sameSlot_iff (slot other : Option Node) : sameSlot slot other = true ↔ slot = other := by
  cases slot <;> cases other <;> simp [sameSlot, same_iff]
end

instance : DecidableEq Node := fun node other =>
  decidable_of_iff (same node other = true) (same_iff node other)

/-- For each node the position of the first one that is equal to it. -/
def firstEquals (nodes : List Node) : List Nat :=
  nodes.map (fun node => nodes.findIdx (fun other => decide (other = node)))

end Node

structure UnknownNode where
  form : String
deriving DecidableEq, Repr

def UnknownNode.message (unknown : UnknownNode) : String :=
  s!"Unknown AST node: {unknown.form}"

def Node.unknown? : Node → Option UnknownNode
  | .foreign form _ => some ⟨form⟩
  | _ => none

end MonkeySyntax
