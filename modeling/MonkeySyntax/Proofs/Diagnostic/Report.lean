import MonkeySyntax.Diagnostic
import MonkeySyntax.Proofs.Token.Label

/-!
# Reports on unexpected tokens

The text of a diagnostic names its file without quoting it.  Where the file is known, the texts can
be told apart: the two kinds end where no name goes on, the numbers where no numeral goes on, and
the lines behind them follow from the kinds.
-/

set_option autoImplicit false

namespace MonkeySyntax.Diagnostic

open Text

def remarks (diagnostic : Diagnostic) : String :=
  String.join ((diagnostic.helpLines
    ++ diagnostic.suggestions.map (fun suggestion => s!"  suggestion: {suggestion}")).map
      (fun line => line ++ "\n"))

theorem toList_text (diagnostic : Diagnostic) :
    diagnostic.text.toList
      = diagnostic.heading.toList ++ ": ".toList ++ diagnostic.message.toList
          ++ "\n  --> ".toList ++ diagnostic.location.text.toList
          ++ '\n' :: diagnostic.remarks.toList := by
  have pieces : diagnostic.text
      = String.join ((diagnostic.heading ++ ": " ++ diagnostic.message ++ "\n")
          :: ("  --> " ++ diagnostic.location.text ++ "\n")
          :: (diagnostic.helpLines ++ diagnostic.suggestions.map
              (fun suggestion => s!"  suggestion: {suggestion}")).map
                (fun line => line ++ "\n")) := by
    rw [text, lines, List.append_assoc, List.map_append]
    rfl
  rw [pieces, String.join_cons, String.join_cons, ← remarks]
  simp

theorem text_ne_nil (diagnostic : Diagnostic) : diagnostic.text.toList ≠ [] := by
  rw [toList_text]
  simp

theorem toList_location (location : Location) :
    location.text.toList
      = location.file.toList
          ++ ':' :: ((toString location.line).toList
            ++ ':' :: (toString location.column).toList) := by
  have pieces : location.text
      = location.file ++ ":" ++ toString location.line ++ ":" ++ toString location.column := rfl
  simp [pieces]

/-- The text up to the file depends on the kinds alone, and so do the lines behind the location. -/
theorem toList_text_unexpectedToken (file : String) (expected : Kind) (found : Token) :
    (unexpectedToken expected found file).text.toList
      = "error[P001]: expected next token to be ".toList
          ++ (expected.name.toList ++ ',' :: (" got ".toList
            ++ (found.kind.name.toList ++ ' ' :: ("instead\n  --> ".toList ++ (file.toList
              ++ ':' :: ((toString found.line).toList ++ ':' :: ((toString found.column).toList
                ++ '\n' :: (unexpectedToken expected found file).remarks.toList))))))) := by
  have message : (unexpectedToken expected found file).message
      = "expected next token to be " ++ expected.name ++ ", got " ++ found.kind.name
          ++ " instead" := rfl
  have heading : (unexpectedToken expected found file).heading = "error[P001]" := rfl
  have location : (unexpectedToken expected found file).location
      = ⟨file, found.line, found.column⟩ := rfl
  rw [toList_text, message, heading, location, toList_location]
  simp

/-- A report does not repeat the text of the token. -/
theorem unexpectedToken_congr (file : String) {expected expected' : Kind} {found found' : Token}
    (expected_eq : expected = expected') (found_eq : found.kind = found'.kind)
    (line_eq : found.line = found'.line) (column_eq : found.column = found'.column) :
    unexpectedToken expected found file = unexpectedToken expected' found' file := by
  have location : found.location file = found'.location file := by
    rw [Token.location, Token.location, line_eq, column_eq]
  unfold unexpectedToken
  rw [expected_eq, found_eq, location]

theorem toldApart_unexpectedToken (file : String) (expected expected' : Kind)
    (found found' : Token) :
    ToldApart (fun diagnostic => diagnostic.text.toList) (unexpectedToken expected found file)
      (unexpectedToken expected' found' file) := by
  intro rest more same
  simp only [toList_text_unexpectedToken, List.append_assoc, List.cons_append] at same
  have comma : isLetter ',' = false := by decide
  have blank : isLetter ' ' = false := by decide
  have colon : ∀ number : Int, ':' ∉ (toString number).toList :=
    not_mem_toString_int (by decide) (by decide)
  have newline : ∀ number : Int, '\n' ∉ (toString number).toList :=
    not_mem_toString_int (by decide) (by decide)
  obtain ⟨expectedNames, behindExpected⟩ := append_cons_inj (expected.not_mem_name comma)
    (expected'.not_mem_name comma) (List.append_cancel_left same)
  obtain ⟨foundNames, behindFound⟩ := append_cons_inj (found.kind.not_mem_name blank)
    (found'.kind.not_mem_name blank) (List.append_cancel_left behindExpected)
  have behindFile := List.append_cancel_left (List.append_cancel_left behindFound)
  obtain ⟨lines, behindLine⟩ :=
    append_cons_inj (colon _) (colon _) (List.cons.inj behindFile).2
  obtain ⟨columns, behindColumn⟩ := append_cons_inj (newline _) (newline _) behindLine
  have expected_eq := Kind.name_inj.mp (String.toList_inj.mp expectedNames)
  have found_eq := Kind.name_inj.mp (String.toList_inj.mp foundNames)
  have line_eq := toString_int_inj (String.toList_inj.mp lines)
  have column_eq := toString_int_inj (String.toList_inj.mp columns)
  have diagnostics := unexpectedToken_congr file expected_eq found_eq line_eq column_eq
  rw [diagnostics] at behindColumn
  exact ⟨diagnostics, List.append_cancel_left behindColumn⟩

end MonkeySyntax.Diagnostic
