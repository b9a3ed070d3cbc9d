import MonkeySyntax.Proofs.Node.Margin
import MonkeySyntax.Proofs.Parser.Order
import MonkeySyntax.Proofs.Token.Label

/-!
# Reading printed programs back

The indent of a printer may hold anything, line feeds among it, but it is the same for all lines of
all programs.  A header ends at the first line feed and says which form its statement has; the form
says what stands in front of the next header.
-/

set_option autoImplicit false

namespace MonkeySyntax

open Text

namespace Printer

/-! ## Headers -/

theorem header_ended_inj {node other : Node} {rest more : List Char}
    (same : (header node).toList ++ '\n' :: rest = (header other).toList ++ '\n' :: more) :
    header node = header other ∧ rest = more := by
  have single : ∀ node, '\n' ∉ (header node).toList := fun node =>
    (allPrintable_header node).not_mem_of_lineBreak '\n' (by decide)
  obtain ⟨headers, behind⟩ := append_cons_inj (single node) (single other) same
  exact ⟨String.toList_inj.mp headers, behind⟩

theorem anchor_eq_of_anchorText {anchor anchor' : Token} (kinds : anchor.kind = anchor'.kind)
    (same : anchorText anchor = anchorText anchor') : anchor = anchor' := by
  obtain ⟨texts, lines, columns⟩ := anchored_inj.mp same
  exact Token.eq_of_parts kinds texts lines columns

/-! ## Statements -/

/-- The lines of a statement of a program, each behind the end of the line before it. -/
def statementText (indent : String) (statement : Node) : List Char :=
  (outline 1 (.plain statement)).flatMap (fun row => '\n' :: (row.text indent).toList)

theorem statementText_letStatement (indent : String) (anchor name : Token) (value : String) :
    statementText indent (.letStatement anchor (.identifier name value) none)
      = '\n' :: ((margin ⟨indent, 1⟩).toList
          ++ ((header (.letStatement anchor (.identifier name value) none)).toList
            ++ '\n' :: ((margin ⟨indent, 2⟩ ++ "name: " ++ trimStart (margin ⟨indent, 2⟩)).toList
              ++ ((header (.identifier name value)).toList
                ++ '\n' :: (margin ⟨indent, 2⟩ ++ "value: <none>").toList)))) := by
  have rows : outline 1 (.plain (.letStatement anchor (.identifier name value) none))
      = [⟨1, .plain (.letStatement anchor (.identifier name value) none)⟩,
          ⟨2, .labelled "name" (some (.identifier name value))⟩,
          ⟨2, .labelled "value" none⟩] := by
    simp [outline_eq, Slot.below, Slot.node?, Node.slots]
  simp [statementText, rows, Row.text_eq, Row.body, Row.margin, margin]

theorem statementText_returnStatement (indent : String) (anchor : Token) :
    statementText indent (.returnStatement anchor none)
      = '\n' :: ((margin ⟨indent, 1⟩).toList ++ ((header (.returnStatement anchor none)).toList
          ++ '\n' :: (margin ⟨indent, 2⟩ ++ "return_value: <none>").toList)) := by
  have rows : outline 1 (.plain (.returnStatement anchor none))
      = [⟨1, .plain (.returnStatement anchor none)⟩, ⟨2, .labelled "return_value" none⟩] := by
    simp [outline_eq, Slot.below, Slot.node?, Node.slots]
  simp [statementText, rows, Row.text_eq, Row.body, Row.margin, margin]

theorem statementText_ne_nil (indent : String) (statement : Node) :
    statementText indent statement ≠ [] := by
  simp [statementText, outline_eq]

theorem toldApart_letStatement (indent : String) {anchor anchor' name name' : Token}
    (anchors : anchor.kind = anchor'.kind) (names : name.kind = name'.kind) :
    ToldApart (statementText indent) (.letStatement anchor (.identifier name name.text) none)
      (.letStatement anchor' (.identifier name' name'.text) none) := by
  intro rest more same
  simp only [statementText_letStatement, List.cons_append, List.append_assoc] at same
  obtain ⟨headers, behindHeader⟩ :=
    header_ended_inj (List.append_cancel_left (List.cons.inj same).2)
  obtain ⟨identifiers, behindName⟩ := header_ended_inj (List.append_cancel_left behindHeader)
  rw [header_letStatement, header_letStatement, String.append_right_inj] at headers
  rw [header_identifier, header_identifier, String.append_right_inj] at identifiers
  obtain rfl := anchor_eq_of_anchorText anchors headers
  obtain rfl := anchor_eq_of_anchorText names identifiers
  exact ⟨rfl, List.append_cancel_left behindName⟩

theorem toldApart_returnStatement (indent : String) {anchor anchor' : Token}
    (anchors : anchor.kind = anchor'.kind) :
    ToldApart (statementText indent) (.returnStatement anchor none)
      (.returnStatement anchor' none) := by
  intro rest more same
  simp only [statementText_returnStatement, List.cons_append, List.append_assoc] at same
  obtain ⟨headers, behind⟩ := header_ended_inj (List.append_cancel_left (List.cons.inj same).2)
  rw [header_returnStatement, header_returnStatement, String.append_right_inj] at headers
  obtain rfl := anchor_eq_of_anchorText anchors headers
  exact ⟨rfl, List.append_cancel_left behind⟩

theorem letStatement_ne_returnStatement (indent : String) (anchor name anchor' : Token)
    (value : String) (rest more : List Char) :
    statementText indent (.letStatement anchor (.identifier name value) none) ++ rest
      ≠ statementText indent (.returnStatement anchor' none) ++ more := by
  intro same
  simp only [statementText_letStatement, statementText_returnStatement, List.cons_append,
    List.append_assoc] at same
  obtain ⟨headers, _⟩ := header_ended_inj (List.append_cancel_left (List.cons.inj same).2)
  rw [header_letStatement, header_returnStatement, ← String.toList_inj] at headers
  have starts := congrArg List.head? headers
  simp at starts

theorem toldApart_statementText (indent : String) {source other : List Char}
    {statement otherStatement : Node} (form : statement.StatementOf source)
    (otherForm : otherStatement.StatementOf other) :
    ToldApart (statementText indent) statement otherStatement := by
  cases form with
  | letStatement anchor name anchor_kind _ _ name_kind _ _ =>
    cases otherForm with
    | letStatement anchor' name' anchor_kind' _ _ name_kind' _ _ =>
      exact toldApart_letStatement indent (anchor_kind.trans anchor_kind'.symm)
        (name_kind.trans name_kind'.symm)
    | returnStatement anchor' _ _ _ =>
      intro rest more same
      exact absurd same (letStatement_ne_returnStatement indent _ _ _ _ rest more)
  | returnStatement anchor anchor_kind _ _ =>
    cases otherForm with
    | letStatement anchor' name' _ _ _ _ _ _ =>
      intro rest more same
      exact absurd same.symm (letStatement_ne_returnStatement indent _ _ _ _ more rest)
    | returnStatement anchor' anchor_kind' _ _ =>
      exact toldApart_returnStatement indent (anchor_kind.trans anchor_kind'.symm)

/-! ## Programs -/

theorem toList_intercalate_cons (first : String) (others : List String) :
    ("\n".intercalate (first :: others)).toList
      = first.toList ++ others.flatMap (fun line => '\n' :: line.toList) := by
  induction others generalizing first with
  | nil => simp
  | cons line others ih =>
    rw [String.intercalate_cons_cons, String.toList_append, String.toList_append, ih]
    simp

theorem toList_header_program (statements : List Node) :
    (header (.program statements)).toList
      = "Program (".toList ++ ((toString (statements.length : Int)).toList
          ++ ' ' :: "statements)".toList) := by
  have pieces : header (.program statements)
      = "Program (" ++ toString (statements.length : Int) ++ " statements)" := rfl
  simp [pieces]

theorem exists_render_program (printer : Printer) {statements : List Node}
    (known : (Node.program statements).isKnown = true) :
    ∃ text, (printer.render (.program statements)).1 = .ok text ∧
      text.toList = (header (.program statements)).toList
        ++ statements.flatMap (statementText printer.indent) := by
  refine ⟨_, congrArg Prod.fst (render_of_known printer known), ?_⟩
  have below : (Slot.plain (.program statements)).below = statements.map .plain := by
    simp [Slot.below, Slot.node?, Node.slots]
  have first : Row.text printer.indent ⟨0, .plain (.program statements)⟩
      = header (.program statements) := by
    simp [Row.text_eq, Row.body, Row.margin]
  rw [outline_eq, below, List.map_cons, toList_intercalate_cons, List.flatMap_map,
    List.flatMap_map, List.flatMap_assoc, first]
  rfl

/-- Programs of statements from texts are printed alike only if they are the same. -/
theorem render_inj (printer : Printer) {source other : List Char} {statements others : List Node}
    (forms : ∀ statement ∈ statements, statement.StatementOf source)
    (otherForms : ∀ statement ∈ others, statement.StatementOf other)
    (known : (Node.program statements).isKnown = true)
    (otherKnown : (Node.program others).isKnown = true)
    {text : String} (rendered : (printer.render (.program statements)).1 = .ok text)
    (otherRendered : (printer.render (.program others)).1 = .ok text) : statements = others := by
  obtain ⟨shown, shows, lines⟩ := exists_render_program printer known
  obtain ⟨otherShown, otherShows, otherLines⟩ := exists_render_program printer otherKnown
  obtain rfl := Except.ok.inj (rendered.symm.trans shows)
  obtain rfl := Except.ok.inj (otherRendered.symm.trans otherShows)
  have same := lines.symm.trans otherLines
  have noBlank : ∀ number : Int, ' ' ∉ (toString number).toList :=
    not_mem_toString_int (by decide) (by decide)
  simp only [toList_header_program, List.append_assoc, List.cons_append] at same
  obtain ⟨_, behindCount⟩ :=
    append_cons_inj (noBlank _) (noBlank _) (List.append_cancel_left same)
  exact eq_of_flatMap_eq (statementText_ne_nil printer.indent)
    (fun statement member otherStatement otherMember =>
      toldApart_statementText printer.indent (forms statement member)
        (otherForms otherStatement otherMember))
    (List.append_cancel_left behindCount)

end Printer

end MonkeySyntax
