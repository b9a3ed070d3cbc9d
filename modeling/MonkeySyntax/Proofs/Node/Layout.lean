import MonkeySyntax.Proofs.Node.Printer
import MonkeySyntax.Proofs.Text.Quoted

/-!
# The layout of a printed tree

A line says of its node what the header says, which is printable text that begins with no blank: so
no line is broken, and an indent of blanks does not show behind a label.
-/

set_option autoImplicit false

namespace MonkeySyntax

namespace Text

theorem trimStart_of_head? {text : String} (shown : ∀ c ∈ text.toList.head?, isBlank c = false) :
    trimStart text = text := by
  rw [trimStart]
  cases chars : text.toList with
  | nil => rw [List.dropWhile_nil, ← chars, String.ofList_toList]
  | cons c rest =>
    rw [chars] at shown
    have first : ¬ isBlank c = true := by simp [shown c rfl]
    rw [List.dropWhile_cons_of_neg first, ← chars, String.ofList_toList]

theorem trimStart_append {blanks : String} (blank : ∀ c ∈ blanks.toList, isBlank c = true)
    (text : String) : trimStart (blanks ++ text) = trimStart text := by
  rw [trimStart, String.toList_append, List.dropWhile_append_of_pos blank, trimStart]

/-- Where lines end, also in texts that use other ends than the line feed. -/
def lineBreaks : List Char :=
  ['\n', '\x0B', '\x0C', '\r', '\x1C', '\x1D', '\x1E', '\u0085', '\u2028', '\u2029']

theorem AllPrintable.not_mem_of_lineBreak {text : String} (shown : AllPrintable text) :
    ∀ c ∈ lineBreaks, c ∉ text.toList := by
  have hidden : lineBreaks.all (fun c => !isPrintable c) = true := by decide +kernel
  intro c broken member
  have unprintable := List.all_eq_true.mp hidden c broken
  rw [List.all_eq_true.mp shown c member] at unprintable
  exact Bool.false_ne_true unprintable

end Text

namespace Printer

open Text

/-! ## Headers -/

theorem header_cases (node : Node) :
    header node = "" ∨
      (∃ count : Nat, header node = "Program (" ++ toString count ++ " statements)") ∨
      ∃ name ∈ ["LetStatement ", "ReturnStatement ", "Identifier "], ∃ text anchor,
        header node = name ++ quoted text ++ " " ++ place anchor := by
  cases node with
  | program statements => exact Or.inr (Or.inl ⟨statements.length, rfl⟩)
  | letStatement anchor name value? =>
    exact Or.inr (Or.inr ⟨"LetStatement ", by simp, anchor.text, anchor, rfl⟩)
  | returnStatement anchor value? =>
    exact Or.inr (Or.inr ⟨"ReturnStatement ", by simp, anchor.text, anchor, rfl⟩)
  | identifier anchor value => exact Or.inr (Or.inr ⟨"Identifier ", by simp, value, anchor, rfl⟩)
  | foreign form text => exact Or.inl rfl

theorem allPrintable_place (anchor : Token) : AllPrintable (place anchor) := by
  have marks : AllPrintable "@" ∧ AllPrintable ":" := by decide
  exact ((marks.1.append (allPrintable_toString_int anchor.line)).append marks.2).append
    (allPrintable_toString_int anchor.column)

theorem allPrintable_header (node : Node) : AllPrintable (header node) := by
  rcases header_cases node with empty | ⟨count, program⟩ | ⟨name, listed, text, anchor, anchored⟩
  · rw [empty]
    decide
  · have words : AllPrintable "Program (" ∧ AllPrintable " statements)" := by decide
    rw [program]
    exact (words.1.append (allPrintable_toString_nat count)).append words.2
  · have names : ∀ name ∈ ["LetStatement ", "ReturnStatement ", "Identifier "],
        AllPrintable name := by decide
    have blank : AllPrintable " " := by decide
    rw [anchored]
    exact (((names name listed).append (allPrintable_quoted text)).append blank).append
      (allPrintable_place anchor)

theorem trimStart_header (node : Node) : trimStart (header node) = header node := by
  apply trimStart_of_head?
  rcases header_cases node with empty | ⟨count, program⟩ | ⟨name, listed, text, anchor, anchored⟩
  · simp [empty]
  · simp [program]
    decide
  · have names : ∀ name ∈ ["LetStatement ", "ReturnStatement ", "Identifier "],
        ∃ c, name.toList.head? = some c ∧ isBlank c = false := by simp [isBlank]; decide
    obtain ⟨c, first, shown⟩ := names name listed
    rw [anchored]
    simpa [first] using shown

end Printer

/-! ## Lines -/

namespace Row

theorem mem_indent_of_mem_margin {indent : String} {row : Row} {c : Char}
    (member : c ∈ (row.margin indent).toList) : c ∈ indent.toList := by
  rw [margin, String.toList_join] at member
  obtain ⟨copy, repeated, inside⟩ := List.mem_flatMap.mp member
  rwa [List.eq_of_mem_replicate repeated] at inside

/-- Behind a label an indent of blanks does not show. -/
theorem text_of_blank {indent : String} (blank : ∀ c ∈ indent.toList, Text.isBlank c = true)
    {row : Row} {label : String} {node : Node} (held : row.slot = .labelled label (some node)) :
    row.text indent = row.margin indent ++ (label ++ ": " ++ Printer.header node) := by
  have margin : ∀ c ∈ (row.margin indent).toList, Text.isBlank c = true :=
    fun c member => blank c (mem_indent_of_mem_margin member)
  rw [text, held]
  simp only
  rw [Text.trimStart_append margin, Printer.trimStart_header]

end Row

theorem Node.label_of_mem_slots {node : Node} {label : String} {node? : Option Node}
    (member : .labelled label node? ∈ node.slots) : label ∈ ["name", "value", "return_value"] := by
  cases node with
  | program statements => simp [slots] at member
  | letStatement anchor name value? =>
    simp only [slots, List.mem_cons, Slot.labelled.injEq, List.not_mem_nil, or_false] at member
    rcases member with ⟨rfl, _⟩ | ⟨rfl, _⟩
    · simp
    · simp
  | returnStatement anchor value? =>
    obtain ⟨rfl, _⟩ := Slot.labelled.inj (List.mem_singleton.mp member)
    simp
  | identifier | foreign => contradiction

theorem slot_of_mem_outline {depth : Int} {tree : Node} {row : Row}
    (member : row ∈ outline depth (.plain tree)) :
    row.slot = .plain tree ∨ ∃ node ∈ tree.preorder, row.slot ∈ node.slots := by
  have listed := (map_slot_outline_perm depth (.plain tree)).mem_iff.mp
    (List.mem_map_of_mem member)
  simpa [Slot.preorder, Slot.node?] using listed

theorem newline_not_mem_text {indent : String} (single : '\n' ∉ indent.toList) {depth : Int}
    {tree : Node} {row : Row} (member : row ∈ outline depth (.plain tree)) :
    '\n' ∉ (row.text indent).toList := by
  have margin : '\n' ∉ (row.margin indent).toList :=
    fun inside => single (Row.mem_indent_of_mem_margin inside)
  have header : ∀ node, '\n' ∉ (Printer.header node).toList := fun node =>
    (Printer.allPrintable_header node).not_mem_of_lineBreak '\n' (by decide)
  cases held : row.slot with
  | plain node => simp [Row.text, held, margin, header node]
  | labelled label node? =>
    have labels : ∀ label ∈ ["name", "value", "return_value"], '\n' ∉ label.toList := by decide
    have named : '\n' ∉ label.toList := by
      rcases slot_of_mem_outline member with root | ⟨node, _, inside⟩
      · rw [held] at root
        contradiction
      · rw [held] at inside
        exact labels label (Node.label_of_mem_slots inside)
    cases node? with
    | none => simp [Row.text, held, margin, named]
    | some node =>
      have trimmed : '\n' ∉ (Text.trimStart (row.margin indent ++ Printer.header node)).toList := by
        rw [Text.trimStart, String.toList_ofList]
        intro inside
        have kept := (List.dropWhile_suffix _).subset inside
        simp [margin, header node] at kept
      simp [Row.text, held, margin, named, trimmed]

/-- The lines of a tree, printed at any depth, are the texts of its outline. -/
theorem layout_follows_tree (tree : Node) (known : tree.isKnown = true) (printer : Printer) :
    let rows := outline printer.depth (.plain tree)
    printer.visit tree = (.ok (rows.map (Row.text printer.indent)), printer) ∧
      rows.filterMap Row.node? = tree.preorder ∧
      (rows.map Row.slot).Perm (.plain tree :: tree.preorder.flatMap Node.slots) ∧
      ((∀ c ∈ printer.indent.toList, Text.isBlank c = true) →
        ∀ row ∈ rows, ∀ label node, row.slot = .labelled label (some node) →
          row.text printer.indent
            = row.margin printer.indent ++ (label ++ ": " ++ Printer.header node)) ∧
      (∀ node, ∀ c ∈ Text.lineBreaks, c ∉ (Printer.header node).toList) ∧
      ('\n' ∉ printer.indent.toList →
        ∃ text, (printer.render tree).1 = .ok text ∧
          text.toList.splitOn '\n'
            = (outline 0 (.plain tree)).map (fun row => (row.text printer.indent).toList)) := by
  have held : (Slot.plain tree).preorder = tree.preorder := by
    rw [Slot.preorder, Slot.node?, Option.toList_some, List.flatMap_singleton]
  refine ⟨Printer.visit_of_known printer known, ?_, ?_, ?_, ?_, ?_⟩
  · rw [filterMap_node?_outline, held]
  · rw [← held]
    exact map_slot_outline_perm printer.depth (.plain tree)
  · intro blank row _ label node held
    exact Row.text_of_blank blank held
  · intro node
    exact (Printer.allPrintable_header node).not_mem_of_lineBreak
  · intro single
    refine ⟨_, congrArg Prod.fst (Printer.render_of_known printer known), ?_⟩
    rw [String.toList_intercalate, List.map_map]
    apply List.splitOn_intercalate
    · intro line member
      obtain ⟨row, inside, rfl⟩ := List.mem_map.mp member
      exact newline_not_mem_text single inside
    · rw [outline_eq]
      exact List.cons_ne_nil _ _

/-- A program in a slot for a value, and a name with a line feed in it. -/
theorem layout_of_program_in_slot :
    let tree : Node := .letStatement ⟨.letWord, "let", 1, 1⟩ (.identifier ⟨.ident, "x", 1, 5⟩ "x\n")
      (some (.program [.returnStatement ⟨.returnWord, "return", 2, 1⟩ none]))
    tree.isKnown = true ∧
      (Printer.render { indent := "> " } tree).1
        = .ok ("LetStatement 'let' @1:1\n> name: > Identifier 'x\\n' @1:5\n"
            ++ "> value: > Program (1 statements)\n> > ReturnStatement 'return' @2:1\n"
            ++ "> > > return_value: <none>") ∧
      ∃ text, (Printer.render { indent := "> " } tree).1 = .ok text ∧
        text.toList.splitOn '\n'
          = (outline 0 (.plain tree)).map (fun row => (row.text "> ").toList) := by
  intro tree
  have known : tree.isKnown = true := by decide
  obtain ⟨_, _, _, _, _, lines⟩ := layout_follows_tree tree known { indent := "> " }
  exact ⟨known, by decide +kernel, lines (by decide)⟩

end MonkeySyntax
