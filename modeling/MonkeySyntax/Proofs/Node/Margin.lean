import Mathlib.Data.List.TakeWhile
import MonkeySyntax.Proofs.Node.Layout

/-!
# Margins of a printed tree

The body of a line is made without the indent, but for one case: a node behind a label was put
behind its margin before, and of that margin only the leading blanks were removed.
-/

set_option autoImplicit false

namespace MonkeySyntax

/-! ## Trimming a margin -/

namespace Text

theorem trimStart_append_of_trimmed {text : String} (trimmed : trimStart text = text)
    (front : String) : trimStart (front ++ text) = trimStart front ++ text := by
  rw [← String.toList_inj, trimStart, String.toList_ofList] at trimmed
  rw [← String.toList_inj, trimStart, trimStart, String.toList_append, String.toList_append,
    String.toList_ofList, String.toList_ofList]
  by_cases blank : ∀ c ∈ front.toList, isBlank c = true
  · have nothing := List.dropWhile_eq_nil_iff.mpr blank
    rw [List.dropWhile_append_of_pos blank, trimmed, nothing, List.nil_append]
  · have left := mt List.dropWhile_eq_nil_iff.mp blank
    rw [List.dropWhile_append, List.isEmpty_eq_false_iff.mpr left, if_neg Bool.false_ne_true]

theorem trimStart_eq_empty_iff (text : String) :
    trimStart text = "" ↔ ∀ c ∈ text.toList, isBlank c = true := by
  rw [← String.toList_inj, trimStart, String.toList_ofList]
  exact List.dropWhile_eq_nil_iff

end Text

namespace Row

theorem mem_margin_iff (indent : String) (row : Row) (c : Char) :
    c ∈ (row.margin indent).toList ↔ 0 < row.depth ∧ c ∈ indent.toList := by
  rw [margin, String.toList_join, List.mem_flatMap]
  constructor
  · rintro ⟨copy, repeated, inside⟩
    obtain ⟨some, rfl⟩ := List.mem_replicate.mp repeated
    exact ⟨by omega, inside⟩
  · rintro ⟨deep, inside⟩
    exact ⟨indent, List.mem_replicate.mpr ⟨by omega, rfl⟩, inside⟩

/-! ## Bodies -/

def body (indent : String) (row : Row) : String :=
  match row.slot with
  | .plain node => Printer.header node
  | .labelled label none => label ++ ": <none>"
  | .labelled label (some node) =>
    label ++ ": " ++ (Text.trimStart (row.margin indent) ++ Printer.header node)

theorem text_eq (indent : String) (row : Row) :
    row.text indent = row.margin indent ++ row.body indent := by
  rw [text, body]
  cases row.slot with
  | plain node => rfl
  | labelled label node? =>
    cases node? with
    | none => rfl
    | some node =>
      simp only [Text.trimStart_append_of_trimmed (Printer.trimStart_header node)]

/-- The line under the given indent and the one under the default indent are the same behind their
margins. -/
def SameBehindMargin (indent : String) (row : Row) (line plain : List Char) : Prop :=
  ∃ said : String, line = (row.margin indent ++ said).toList ∧
    plain = (row.margin ({} : Printer).indent ++ said).toList

theorem sameBehindMargin_iff (indent : String) (row : Row) :
    row.SameBehindMargin indent (row.text indent).toList (row.text ({} : Printer).indent).toList ↔
      row.body indent = row.body ({} : Printer).indent := by
  rw [text_eq, text_eq]
  constructor
  · rintro ⟨said, line, plain⟩
    rw [String.toList_inj, String.append_right_inj] at line plain
    rw [line, plain]
  · intro same
    exact ⟨row.body indent, rfl, by rw [same]⟩

/-- A body depends on the indent just where a node stands behind a label. -/
theorem body_eq_iff (indent : String) {row : Row}
    (deep : ∀ label child, row.slot = .labelled label (some child) → 0 < row.depth) :
    row.body indent = row.body ({} : Printer).indent ↔
      (∀ c ∈ indent.toList, Text.isBlank c = true) ∨
        ∀ label child, row.slot ≠ .labelled label (some child) := by
  have plainMargin : Text.trimStart (row.margin ({} : Printer).indent) = "" := by
    have blank : ∀ c ∈ ({} : Printer).indent.toList, Text.isBlank c = true :=
      List.all_eq_true.mp (by decide)
    exact (Text.trimStart_eq_empty_iff _).mpr
      (fun c member => blank c ((mem_margin_iff _ row c).mp member).2)
  rw [body, body, plainMargin]
  cases held : row.slot with
  | plain node => simp
  | labelled label node? =>
    cases node? with
    | none => simp
    | some child =>
      have positive := deep label child held
      have shown : Text.trimStart (row.margin indent) = "" ↔
          ∀ c ∈ indent.toList, Text.isBlank c = true := by
        simp only [Text.trimStart_eq_empty_iff, mem_margin_iff, positive, true_and]
      simp [String.append_assoc, String.append_right_inj, shown]

end Row

/-! ## Trees -/

theorem depth_of_mem_outline {depth : Int} {slot : Slot} {row : Row}
    (member : row ∈ outline depth slot) : row = ⟨depth, slot⟩ ∨ depth < row.depth := by
  induction slot using Slot.induction_below generalizing depth with
  | step slot ih =>
    rw [outline_eq] at member
    rcases List.mem_cons.mp member with here | below
    · exact Or.inl here
    · obtain ⟨inner, inside, later⟩ := List.mem_flatMap.mp below
      rcases ih inner inside later with rfl | deeper
      · exact Or.inr (Int.lt_succ depth)
      · exact Or.inr (Int.lt_trans (Int.lt_succ depth) deeper)

theorem depth_pos_of_labelled {tree : Node} {row : Row} (member : row ∈ outline 0 (.plain tree))
    {label : String} {child : Node} (held : row.slot = .labelled label (some child)) :
    0 < row.depth := by
  rcases depth_of_mem_outline member with rfl | deep
  · contradiction
  · exact deep

def Node.HasLabelled (tree : Node) : Prop :=
  ∃ node ∈ tree.preorder, ∃ label child, .labelled label (some child) ∈ node.slots

theorem hasLabelled_iff (tree : Node) :
    tree.HasLabelled ↔
      ∃ row ∈ outline 0 (.plain tree), ∃ label child, row.slot = .labelled label (some child) := by
  constructor
  · rintro ⟨node, present, label, child, inside⟩
    have listed : Slot.labelled label (some child)
        ∈ .plain tree :: (Slot.plain tree).preorder.flatMap Node.slots := by
      simp only [Slot.preorder, Slot.node?, Option.toList_some, List.flatMap_singleton]
      exact List.mem_cons_of_mem _ (List.mem_flatMap.mpr ⟨node, present, inside⟩)
    have shown := (map_slot_outline_perm 0 (.plain tree)).mem_iff.mpr listed
    obtain ⟨row, member, held⟩ := List.mem_map.mp shown
    exact ⟨row, member, label, child, held⟩
  · rintro ⟨row, member, label, child, held⟩
    rcases slot_of_mem_outline member with root | ⟨node, present, inside⟩
    · rw [held] at root
      contradiction
    · rw [held] at inside
      exact ⟨node, present, label, child, inside⟩

theorem splitOn_render {indent : String} (single : '\n' ∉ indent.toList) {tree : Node}
    (known : tree.isKnown = true) :
    ∃ text, (Printer.render { indent := indent } tree).1 = .ok text ∧
      text.toList.splitOn '\n'
        = (outline 0 (.plain tree)).map (fun row => (row.text indent).toList) := by
  refine ⟨_, congrArg Prod.fst (Printer.render_of_known { indent := indent } known), ?_⟩
  rw [String.toList_intercalate, List.map_map]
  apply List.splitOn_intercalate
  · intro line member
    obtain ⟨row, inside, rfl⟩ := List.mem_map.mp member
    exact newline_not_mem_text single inside
  · simp [outline_eq]

/-- Line by line, the tree printed with the indent and the tree printed with the default indent say
the same behind the margins of their rows. -/
def IndentInMargins (indent : String) (tree : Node) : Prop :=
  ∃ text plain, (Printer.render { indent := indent } tree).1 = .ok text ∧
    tree.render = .ok plain ∧
    (text.toList.splitOn '\n').length = (outline 0 (.plain tree)).length ∧
    (plain.toList.splitOn '\n').length = (outline 0 (.plain tree)).length ∧
    ∀ (number : Nat) (row : Row), (outline 0 (.plain tree))[number]? = some row →
      ∃ line ∈ (text.toList.splitOn '\n')[number]?, ∃ other ∈ (plain.toList.splitOn '\n')[number]?,
        row.SameBehindMargin indent line other

theorem indentInMargins_iff_rows {indent : String} (single : '\n' ∉ indent.toList) {tree : Node}
    (known : tree.isKnown = true) :
    IndentInMargins indent tree ↔ ∀ row ∈ outline 0 (.plain tree),
      row.body indent = row.body ({} : Printer).indent := by
  obtain ⟨text, rendered, lines⟩ := splitOn_render single known
  have singleDefault : '\n' ∉ ({} : Printer).indent.toList := by decide
  obtain ⟨plain, renderedPlain, plainLines⟩ := splitOn_render singleDefault known
  constructor
  · rintro ⟨_, _, shown, shownPlain, _, _, each⟩ row member
    obtain rfl := Except.ok.inj (rendered.symm.trans shown)
    obtain rfl := Except.ok.inj (renderedPlain.symm.trans shownPlain)
    obtain ⟨number, found⟩ := List.mem_iff_getElem?.mp member
    obtain ⟨line, here, other, there, same⟩ := each number row found
    rw [lines, List.getElem?_map, found] at here
    rw [plainLines, List.getElem?_map, found] at there
    obtain rfl := Option.some.inj here
    obtain rfl := Option.some.inj there
    exact (row.sameBehindMargin_iff indent).mp same
  · intro each
    refine ⟨text, plain, rendered, renderedPlain, by simp [lines], by simp [plainLines], ?_⟩
    intro number row found
    rw [lines, plainLines, List.getElem?_map, List.getElem?_map, found]
    exact ⟨_, rfl, _, rfl,
      (row.sameBehindMargin_iff indent).mpr (each row (List.mem_of_getElem? found))⟩

/-- An indent shows in the margins alone just if it is blank or no node stands behind a label. -/
theorem indent_in_margins_iff (indent : String) (single : '\n' ∉ indent.toList) (tree : Node)
    (known : tree.isKnown = true) :
    IndentInMargins indent tree ↔
      (∀ c ∈ indent.toList, Text.isBlank c = true) ∨ ¬ tree.HasLabelled := by
  have each : ∀ row ∈ outline 0 (.plain tree),
      (row.body indent = row.body ({} : Printer).indent ↔
        (∀ c ∈ indent.toList, Text.isBlank c = true) ∨
          ∀ label child, row.slot ≠ .labelled label (some child)) :=
    fun row member => row.body_eq_iff indent (fun _ _ held => depth_pos_of_labelled member held)
  rw [indentInMargins_iff_rows single known, forall₂_congr each, hasLabelled_iff]
  by_cases blank : ∀ c ∈ indent.toList, Text.isBlank c = true
  · exact iff_of_true (fun _ _ => Or.inl blank) (Or.inl blank)
  · simp only [blank, false_or, not_exists, not_and, ne_eq]

/-- A name is behind a label: tabs stay in the margins, and other indents do not. -/
theorem tabs_in_margins :
    let tree : Node := .letStatement ⟨.letWord, "let", 1, 1⟩
      (.identifier ⟨.ident, "x", 1, 5⟩ "x") none
    '\n' ∉ "\t".toList ∧ '\n' ∉ "> ".toList ∧ tree.isKnown = true ∧ tree.HasLabelled ∧
      IndentInMargins "\t" tree ∧ ¬ IndentInMargins "> " tree := by
  intro tree
  have tab : '\n' ∉ "\t".toList := by decide
  have mark : '\n' ∉ "> ".toList := by decide
  have known : tree.isKnown = true := by decide
  have root : tree ∈ tree.preorder := by
    rw [Node.preorder_eq]
    exact List.mem_cons_self
  have labelled : tree.HasLabelled := ⟨tree, root, "name", _, List.mem_cons_self⟩
  have tabBlank : ∀ c ∈ "\t".toList, Text.isBlank c = true := List.all_eq_true.mp (by decide)
  have markNotBlank : ¬ ∀ c ∈ "> ".toList, Text.isBlank c = true :=
    mt List.all_eq_true.mpr (by decide)
  refine ⟨tab, mark, known, labelled, ?_, ?_⟩
  · exact (indent_in_margins_iff "\t" tab tree known).mpr (Or.inl tabBlank)
  · rw [indent_in_margins_iff "> " mark tree known, not_or, not_not]
    exact ⟨markNotBlank, labelled⟩

/-- The mark of the indent stands behind the label once more. -/
theorem indent_repeated_behind_label :
    let tree : Node := .letStatement ⟨.letWord, "let", 1, 1⟩
      (.identifier ⟨.ident, "x", 1, 5⟩ "x") none
    '\n' ∉ "> ".toList ∧ tree.isKnown = true ∧
      (Printer.render { indent := "> " } tree).1
        = .ok "LetStatement 'let' @1:1\n> name: > Identifier 'x' @1:5\n> value: <none>" ∧
      tree.render = .ok "LetStatement 'let' @1:1\n  name: Identifier 'x' @1:5\n  value: <none>" ∧
      ¬ IndentInMargins "> " tree := by
  intro tree
  have mark : '\n' ∉ "> ".toList := by decide
  have known : tree.isKnown = true := by decide
  refine ⟨mark, known, by decide +kernel, by decide +kernel, ?_⟩
  rw [indentInMargins_iff_rows mark known]
  intro each
  have named : (⟨1, .labelled "name" (some (.identifier ⟨.ident, "x", 1, 5⟩ "x"))⟩ : Row)
      ∈ outline 0 (.plain tree) := by
    rw [outline_eq, Slot.below, Slot.node?, Option.toList_some, List.flatMap_singleton]
    refine List.mem_cons_of_mem _ (List.mem_flatMap.mpr ⟨_, List.mem_cons_self, ?_⟩)
    rw [outline_eq]
    exact List.mem_cons_self
  have same := each _ named
  revert same
  decide +kernel

end MonkeySyntax
