import Mathlib.Data.List.Perm.Basic
import MonkeySyntax.Node.Printer
import MonkeySyntax.Proofs.Node.Preorder

/-!
# Outlines

The outline of a tree has one row for each slot, and right behind it the rows of the slots one level
deeper.  A printer writes the texts of these rows, until a row holds a foreign node (`visit_eq`).
-/

set_option autoImplicit false

namespace MonkeySyntax

/-! ## Slots -/

/-- Where a node may stand. -/
inductive Slot
  | plain (node : Node)
  | labelled (label : String) (node? : Option Node)

def Slot.node? : Slot → Option Node
  | .plain node => some node
  | .labelled _ node? => node?

def Node.slots : Node → List Slot
  | .program statements => statements.map .plain
  | .letStatement _ name value? => [.labelled "name" (some name), .labelled "value" value?]
  | .returnStatement _ value? => [.labelled "return_value" value?]
  | .identifier _ _ => []
  | .foreign _ _ => []

theorem Node.filterMap_node?_slots (node : Node) :
    node.slots.filterMap Slot.node? = node.children := by
  cases node with
  | program statements =>
    rw [children, slots, List.filterMap_map]
    exact List.filterMap_some
  | letStatement anchor name value? => cases value? <;> rfl
  | returnStatement anchor value? => cases value? <;> rfl
  | identifier | foreign => rfl

theorem Node.sizeOf_pos (node : Node) : 0 < sizeOf node := by
  cases node <;> simp only [program.sizeOf_spec, letStatement.sizeOf_spec,
    returnStatement.sizeOf_spec, identifier.sizeOf_spec, foreign.sizeOf_spec] <;> omega

namespace Slot

def below (slot : Slot) : List Slot :=
  slot.node?.toList.flatMap Node.slots

theorem sizeOf_lt_of_mem_below {slot inner : Slot} (member : inner ∈ slot.below) :
    sizeOf inner.node? < sizeOf slot.node? := by
  obtain ⟨node, found, inside⟩ := List.mem_flatMap.mp member
  rw [Option.mem_toList.mp found, Option.some.sizeOf_spec]
  cases held : inner.node? with
  | none =>
    have positive := node.sizeOf_pos
    rw [Option.none.sizeOf_spec]
    omega
  | some child =>
    have present : child ∈ node.children := by
      rw [← node.filterMap_node?_slots]
      exact List.mem_filterMap.mpr ⟨inner, inside, held⟩
    have smaller := Node.sizeOf_lt_of_mem_children present
    rw [Option.some.sizeOf_spec]
    omega

/-- What a slot has when the slots right below it have it, every slot has. -/
@[elab_as_elim]
theorem induction_below {motive : Slot → Prop}
    (step : ∀ slot, (∀ inner ∈ slot.below, motive inner) → motive slot) (slot : Slot) :
    motive slot := by
  apply step
  intro inner member
  exact induction_below step inner
termination_by sizeOf slot.node?
decreasing_by exact sizeOf_lt_of_mem_below member

def preorder (slot : Slot) : List Node :=
  slot.node?.toList.flatMap Node.preorder

theorem preorder_eq (slot : Slot) :
    slot.preorder = slot.node?.toList ++ slot.below.flatMap preorder := by
  cases found : slot.node? with
  | none => simp [preorder, below, found]
  | some node =>
    simp [preorder, below, found, node.preorder_eq, ← node.filterMap_node?_slots,
      List.filterMap_eq_flatMap_toList, List.flatMap_assoc]
    rfl

end Slot

/-! ## Rows -/

structure Row where
  depth : Int
  slot : Slot

def outline (depth : Int) (slot : Slot) : List Row :=
  ⟨depth, slot⟩ :: slot.below.attach.flatMap (fun inner => outline (depth + 1) inner.1)
termination_by sizeOf slot.node?
decreasing_by exact Slot.sizeOf_lt_of_mem_below inner.2

theorem outline_eq (depth : Int) (slot : Slot) :
    outline depth slot = ⟨depth, slot⟩ :: slot.below.flatMap (outline (depth + 1)) := by
  rw [outline, List.flatMap, List.attach_map_val, ← List.flatMap]

namespace Row

def node? (row : Row) : Option Node :=
  row.slot.node?

def margin (indent : String) (row : Row) : String :=
  String.join (List.replicate row.depth.toNat indent)

def text (indent : String) (row : Row) : String :=
  let margin := row.margin indent
  match row.slot with
  | .plain node => margin ++ Printer.header node
  | .labelled label none => margin ++ (label ++ ": <none>")
  | .labelled label (some node) =>
    margin ++ (label ++ ": " ++ Text.trimStart (margin ++ Printer.header node))

end Row

theorem filterMap_node?_outline (depth : Int) (slot : Slot) :
    (outline depth slot).filterMap Row.node? = slot.preorder := by
  induction slot using Slot.induction_below generalizing depth with
  | step slot ih =>
    have inner : slot.below.flatMap (fun inner => (outline (depth + 1) inner).filterMap Row.node?)
        = slot.below.flatMap Slot.preorder :=
      List.flatMap_congr (fun inner member => ih inner member (depth + 1))
    rw [outline_eq, List.filterMap_cons, List.filterMap_flatMap, inner, slot.preorder_eq]
    cases found : slot.node? <;> simp [Row.node?, found]

/-- Every slot of every node has one row. -/
theorem map_slot_outline_perm (depth : Int) (slot : Slot) :
    ((outline depth slot).map Row.slot).Perm (slot :: slot.preorder.flatMap Node.slots) := by
  induction slot using Slot.induction_below generalizing depth with
  | step slot ih =>
    have inner : (slot.below.flatMap (fun inner => (outline (depth + 1) inner).map Row.slot)).Perm
        (slot.below.flatMap (fun inner => inner :: inner.preorder.flatMap Node.slots)) :=
      List.Perm.flatMap_left _ (fun inner member => ih inner member (depth + 1))
    rw [outline_eq, List.map_cons, List.map_flatMap, slot.preorder_eq, List.flatMap_append,
      List.flatMap_assoc]
    -- An outline goes below each slot before it takes the next one; the other row takes all first.
    refine List.Perm.cons slot (inner.trans ?_)
    have apart := List.map_append_flatMap_perm slot.below id
      (fun inner => inner.preorder.flatMap Node.slots)
    rw [List.map_id] at apart
    exact apart.symm

/-! ## Printing rows -/

def Row.unknown? (row : Row) : Option UnknownNode :=
  row.node?.bind Node.unknown?

/-- The texts of the rows, unless one of them holds a foreign node. -/
def linesOf (indent : String) (rows : List Row) : Printer.Outcome :=
  match rows.findSome? Row.unknown? with
  | some unknown => .error unknown
  | none => .ok (rows.map (Row.text indent))

theorem linesOf_cons (indent : String) {row : Row} (known : row.unknown? = none)
    (rows : List Row) :
    linesOf indent (row :: rows)
      = (linesOf indent rows).map (fun lines => row.text indent :: lines) := by
  rw [linesOf, linesOf, List.findSome?_cons, known]
  cases rows.findSome? Row.unknown? with
  | none => rfl
  | some unknown => rfl

namespace Printer

theorem followedBy_linesOf {printer : Printer} {second : Printer → Outcome × Printer}
    {others : List Row} (after : second printer = (linesOf printer.indent others, printer))
    (rows : List Row) :
    followedBy (linesOf printer.indent rows, printer) second
      = (linesOf printer.indent (rows ++ others), printer) := by
  rw [followedBy, after, linesOf, linesOf, linesOf, List.findSome?_append, List.map_append]
  cases rows.findSome? Row.unknown? with
  | some unknown => rfl
  | none =>
    cases others.findSome? Row.unknown? with
    | some unknown => rfl
    | none => rfl

theorem shallower_deeper (printer : Printer) : printer.deeper.shallower = printer := by
  simp [deeper, shallower]

theorem linesOf_outline (printer : Printer) {node : Node} (known : node.unknown? = none) :
    linesOf printer.indent (outline printer.depth (.plain node))
      = (linesOf printer.indent (node.slots.flatMap (outline (printer.depth + 1)))).map
          (fun lines => printer.line (header node) :: lines) := by
  have here : (Slot.plain node).below = node.slots := by simp [Slot.below, Slot.node?]
  have plain : Row.unknown? ⟨printer.depth, .plain node⟩ = none := known
  rw [outline_eq, linesOf_cons _ plain, here]
  rfl

theorem closeSlot_cons (printer : Printer) (label : String) (node : Node) (others : Outcome) :
    closeSlot label
        (others.map (fun lines => printer.deeper.line (header node) :: lines), printer.deeper)
      = (others.map (fun lines =>
          Row.text printer.indent ⟨printer.depth + 1, .labelled label (some node)⟩ :: lines),
          printer) := by
  rw [closeSlot, shallower_deeper]
  cases others with
  | error unknown => rfl
  | ok lines => rfl

theorem closeSlot_linesOf (printer : Printer) (label : String) (node : Node) :
    closeSlot label
        (linesOf printer.deeper.indent (outline printer.deeper.depth (.plain node)), printer.deeper)
      = (linesOf printer.indent (outline (printer.depth + 1) (.labelled label (some node))),
          printer) := by
  cases known : node.unknown? with
  | some unknown =>
    rw [outline_eq, outline_eq, closeSlot, shallower_deeper]
    simp [linesOf, Row.unknown?, Row.node?, Slot.node?, known, Except.map]
  | none =>
    have labelled : Row.unknown? ⟨printer.depth + 1, .labelled label (some node)⟩ = none := known
    rw [linesOf_outline printer.deeper known, closeSlot_cons, outline_eq, linesOf_cons _ labelled]
    simp only [Slot.below, Slot.node?, Option.toList_some, List.flatMap_singleton]
    rfl

mutual
/-- A visit gives the lines of the outline, or the first foreign node in it, and leaves the printer
as it was. -/
theorem visit_eq (printer : Printer) (tree : Node) :
    visit printer tree
      = (linesOf printer.indent (outline printer.depth (.plain tree)), printer) := by
  cases tree with
  | program statements =>
    rw [visit, visitAll_eq, linesOf_outline printer rfl, shallower_deeper]
    rfl
  | letStatement anchor name value? =>
    have value := visitSlot_eq "value" printer value?
    rw [visit, visit_eq, closeSlot_linesOf, followedBy_linesOf value, linesOf_outline printer rfl]
    simp [Node.slots]
  | returnStatement anchor value? =>
    rw [visit, visitSlot_eq, linesOf_outline printer rfl]
    simp [Node.slots]
  | identifier anchor value =>
    rw [visit, linesOf_outline printer rfl]
    rfl
  | foreign form text =>
    rw [visit, outline_eq]
    rfl

theorem visitAll_eq (printer : Printer) (nodes : List Node) :
    visitAll printer nodes
      = (linesOf printer.indent ((nodes.map .plain).flatMap (outline printer.depth)), printer) := by
  cases nodes with
  | nil =>
    rw [visitAll]
    rfl
  | cons node nodes =>
    rw [visitAll, visit_eq, followedBy_linesOf (visitAll_eq printer nodes)]
    rfl

theorem visitSlot_eq (label : String) (printer : Printer) (node? : Option Node) :
    visitSlot label printer node?
      = (linesOf printer.indent (outline (printer.depth + 1) (.labelled label node?)),
          printer) := by
  cases node? with
  | none =>
    rw [visitSlot, shallower_deeper, outline_eq]
    rfl
  | some node =>
    rw [visitSlot, visit_eq]
    exact closeSlot_linesOf printer label node
end

end Printer

end MonkeySyntax
