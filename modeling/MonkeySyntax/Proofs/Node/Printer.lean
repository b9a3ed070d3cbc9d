import MonkeySyntax.Parser
import MonkeySyntax.Proofs.Node.Outline

/-!
# Which trees can be printed

Only a foreign node stops a visit.  A parser builds no foreign node, in whatever state it starts.
-/

set_option autoImplicit false

namespace MonkeySyntax

namespace Node

mutual
def isKnown : Node → Bool
  | .program statements => allKnown statements
  | .letStatement _ name value? => isKnown name && slotKnown value?
  | .returnStatement _ value? => slotKnown value?
  | .identifier _ _ => true
  | .foreign _ _ => false

def allKnown : List Node → Bool
  | [] => true
  | node :: nodes => isKnown node && allKnown nodes

def slotKnown : Option Node → Bool
  | none => true
  | some node => isKnown node
end

theorem allKnown_iff (nodes : List Node) :
    allKnown nodes = true ↔ ∀ node ∈ nodes, node.isKnown = true := by
  induction nodes with
  | nil => simp [allKnown]
  | cons node nodes ih => rw [allKnown, Bool.and_eq_true, ih, List.forall_mem_cons]

end Node

/-! ## Known trees -/

theorem Node.isKnown_iff_children (node : Node) :
    node.isKnown = true ↔
      node.unknown? = none ∧ ∀ child ∈ node.children, child.isKnown = true := by
  cases node with
  | program statements => simp [isKnown, unknown?, children, allKnown_iff]
  | letStatement anchor name value? =>
    cases value? <;> simp [isKnown, slotKnown, unknown?, children]
  | returnStatement anchor value? =>
    cases value? <;> simp [isKnown, slotKnown, unknown?, children]
  | identifier | foreign => simp [isKnown, unknown?, children]

theorem Node.isKnown_iff (tree : Node) :
    tree.isKnown = true ↔ tree.preorder.findSome? unknown? = none := by
  induction tree using induction_children with
  | step node ih =>
    rw [isKnown_iff_children, preorder_eq, List.findSome?_eq_none_iff, List.forall_mem_cons,
      List.forall_mem_flatMap]
    refine and_congr_right (fun _ => forall₂_congr (fun child member => ?_))
    rw [ih child member, List.findSome?_eq_none_iff]

theorem findSome?_unknown?_outline (depth : Int) (slot : Slot) :
    (outline depth slot).findSome? Row.unknown? = slot.preorder.findSome? Node.unknown? := by
  rw [← filterMap_node?_outline depth slot]
  induction outline depth slot with
  | nil => rfl
  | cons row rows ih =>
    cases found : row.node? with
    | none => simpa [Row.unknown?, found] using ih
    | some node =>
      rw [List.filterMap_cons_some found, List.findSome?_cons, List.findSome?_cons, ih,
        Row.unknown?, found]
      rfl

namespace Printer

theorem visit_of_unknown (printer : Printer) {tree : Node} {unknown : UnknownNode}
    (found : tree.preorder.findSome? Node.unknown? = some unknown) :
    visit printer tree = (.error unknown, printer) := by
  rw [visit_eq, linesOf, findSome?_unknown?_outline]
  simp [Slot.preorder, Slot.node?, found]

theorem visit_of_known (printer : Printer) {tree : Node} (known : tree.isKnown = true) :
    visit printer tree
      = (.ok ((outline printer.depth (.plain tree)).map (Row.text printer.indent)), printer) := by
  rw [visit_eq, linesOf, findSome?_unknown?_outline]
  simp [Slot.preorder, Slot.node?, (Node.isKnown_iff tree).mp known]

theorem render_of_known (printer : Printer) {tree : Node} (known : tree.isKnown = true) :
    printer.render tree
      = (.ok ("\n".intercalate ((outline 0 (.plain tree)).map (Row.text printer.indent))),
          { printer with depth := 0 }) := by
  rw [render, visit_of_known _ known]
  rfl

end Printer

theorem Node.exists_render {tree : Node} (known : tree.isKnown = true) :
    ∃ text, tree.render = .ok text :=
  ⟨_, congrArg Prod.fst (Printer.render_of_known {} known)⟩

/-! ## Foreign nodes -/

namespace Printer

theorem render_snd (printer : Printer) (tree : Node) :
    (printer.render tree).2 = { printer with depth := 0 } := by
  rw [render, visit_eq]

theorem renderAll_eq_map (printer : Printer) (trees : List Node) :
    renderAll printer trees
      = trees.map (fun tree => (render { indent := printer.indent } tree).1) := by
  induction trees generalizing printer with
  | nil => rfl
  | cons tree trees ih =>
    rw [renderAll, List.map_cons, render_snd, ih]
    rfl

end Printer

/-- Before the foreign node `unknown` there are only known nodes in the preorder of the tree. -/
structure Node.FirstForeign (tree : Node) (before : List Node) (unknown : UnknownNode) : Prop where
  reached : ∃ text behind, tree.preorder = before ++ .foreign unknown.form text :: behind
  known : ∀ node ∈ before, node.unknown? = none

/-- Just a foreign node stops a visitor.  A walk has then noted the nodes before the first one, and
whether it was stopped or not, a printer is afterwards what it was before. -/
theorem visitors_stop_at_unknown (tree : Node) :
    ((∃ form text, .foreign form text ∈ tree.preorder) →
        ∃ before unknown, tree.FirstForeign before unknown ∧
          tree.walkNoting (fun _ node => node) = ⟨before, some unknown⟩ ∧
          (∀ printer : Printer, printer.visit tree = (.error unknown, printer)) ∧
          unknown.message = "Unknown AST node: " ++ unknown.form) ∧
      ((∀ form text, .foreign form text ∉ tree.preorder) →
        tree.walkNoting (fun _ node => node) = ⟨tree.preorder, none⟩ ∧
          ∀ printer : Printer, ∃ lines, printer.visit tree = (.ok lines, printer)) ∧
      ∀ (printer : Printer) (trees : List Node),
        printer.renderAll trees
          = trees.map (fun tree => (Printer.render { indent := printer.indent } tree).1) := by
  refine ⟨?_, ?_, Printer.renderAll_eq_map⟩
  · rintro ⟨form, text, member⟩
    have stopped : tree.preorder.findSome? Node.unknown? ≠ none := by
      intro passed
      have known := List.findSome?_eq_none_iff.mp passed _ member
      contradiction
    obtain ⟨unknown, found⟩ := Option.ne_none_iff_exists'.mp stopped
    obtain ⟨before, node, behind, split, foreign, known⟩ := List.findSome?_eq_some_iff.mp found
    obtain ⟨text, rfl⟩ := (node.unknown?_eq_some_iff unknown).mp foreign
    refine ⟨before, unknown, ⟨⟨text, behind, split⟩, known⟩, ?_, ?_, rfl⟩
    · rw [Node.walkNoting_eq_along, split, Walk.along_append_of_known known]
      simp [Walk.along, Node.form?, Node.unknown?]
    · intro printer
      exact Printer.visit_of_unknown printer found
  · intro absent
    have known : ∀ node ∈ tree.preorder, node.unknown? = none := by
      intro node member
      apply Option.eq_none_iff_forall_ne_some.mpr
      intro unknown found
      obtain ⟨text, rfl⟩ := (node.unknown?_eq_some_iff unknown).mp found
      exact absent _ _ member
    refine ⟨?_, ?_⟩
    · have noted := Walk.along_append_of_known known []
      rw [List.append_nil] at noted
      rw [Node.walkNoting_eq_along, noted]
      simp [Walk.along, Walk.nothing]
    · intro printer
      have printable := (Node.isKnown_iff tree).mpr (List.findSome?_eq_none_iff.mpr known)
      exact ⟨_, Printer.visit_of_known printer printable⟩

/-! ## Parsed trees -/

namespace Parser

theorem isKnown_parseStatement (parser : Parser) :
    ∀ statement ∈ parser.parseStatement.1, statement.isKnown = true := by
  unfold parseStatement
  split
  · unfold parseLet
    simp only
    split
    · split
      · simp [Node.isKnown, Node.slotKnown]
      · simp
    · simp
  · split
    · simp [parseReturn, Node.isKnown, Node.slotKnown]
    · simp [skipUnsupported]

theorem isKnown_parseStatements (parser : Parser) :
    ∀ statement ∈ parser.parseStatements.1, statement.isKnown = true := by
  fun_induction parseStatements parser with
  | case1 parser ended => simp
  | case2 parser more parsed later ih =>
    intro statement member
    rcases List.mem_append.mp member with here | behind
    · exact isKnown_parseStatement parser statement (Option.mem_toList.mp here)
    · exact ih statement behind

theorem isKnown_parseProgram (parser : Parser) : parser.parseProgram.1.isKnown = true := by
  rw [parseProgram, Node.isKnown]
  exact (Node.allKnown_iff _).mpr (isKnown_parseStatements parser)

end Parser

end MonkeySyntax
