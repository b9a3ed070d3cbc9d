import MonkeySyntax.Proofs.Parser.Resynchronization

/-!
# Going on in the middle of a text

A cursor may stand anywhere, also inside a word or a two-character sign.  What it reads from there
is what the rest gives by itself, moved behind the part that was passed.
-/

set_option autoImplicit false

namespace MonkeySyntax

namespace Cursor

theorem tokens_behind_eq_map (before rest : List Char) :
    (behind before rest).tokens.1
      = (behind [] rest).tokens.1.map (Token.behind before) := by
  obtain ⟨pieces, last, whole⟩ := exists_decomposition rest
  rw [tokens_behind before rest pieces last whole, tokens_behind [] rest pieces last whole,
    List.map_append, ← tokensBehind_eq_map_behind, Lexeme.tokenBehind_append]
  rfl

end Cursor

namespace Parser

theorem parseProgram_behind (before rest : List Char) (file : String) :
    (ofCursor (.behind before rest) file).parseProgram.1
        = (ofCursor (.behind [] rest) file).parseProgram.1.behind before ∧
      (ofCursor (.behind before rest) file).parseProgram.2.diagnostics.toList
        = (ofCursor (.behind [] rest) file).parseProgram.2.diagnostics.toList.map
            (Diagnostic.behind before) := by
  obtain ⟨pieces, last, whole⟩ := exists_decomposition rest
  obtain ⟨spans, segments⟩ :=
    exists_segments (Lexeme.ending.tokenBehind rest) rfl (tokensBehind [] pieces)
  have keeps := keepsLexeme_behind before
  have moved := segments.relocate keeps
  rw [← tokensBehind_eq_map_behind, ← Lexeme.tokenBehind_append] at moved
  obtain ⟨program, recorded⟩ := parse_segments_behind [] rest file pieces last whole spans segments
  obtain ⟨movedProgram, movedRecorded⟩ :=
    parse_segments_behind before rest file pieces last whole _ moved
  constructor
  · rw [movedProgram, program, statements_relocate keeps, Node.behind, Node.relocate,
      Node.relocateAll_eq_map]
  · rw [movedRecorded, recorded, Lexeme.tokenBehind_append, faults_relocate, List.map_map,
      List.map_map]
    simp only [Function.comp_def, Fault.diagnostic_relocate, List.nil_append]

end Parser

/-- Wherever the operations of a session leave a cursor, the tokens from there on and the program
and the diagnostics that a parser finds there are those of the rest of the text alone, moved behind
what was passed. -/
theorem resume_after_steps (source file : String) (steps : List Cursor.Step) :
    ∃ before rest : String,
      source = before ++ rest ∧
        before.length = ((Cursor.ofSource source).after steps).offset ∧
        ((Cursor.ofSource source).after steps).tokens.1
          = (tokenize rest).map (Token.behind before.toList) ∧
        (Parser.ofCursor ((Cursor.ofSource source).after steps) file).parseProgram.1
          = (Parser.ofSource rest file).parseProgram.1.behind before.toList ∧
        (Parser.ofCursor ((Cursor.ofSource source).after steps)
            file).parseProgram.2.diagnostics.toList
          = (Parser.ofSource rest file).parseProgram.2.diagnostics.toList.map
              (Diagnostic.behind before.toList) := by
  obtain ⟨before, rest, whole, stands⟩ := Cursor.after_ofSource source steps
  have afresh : Cursor.ofSource (String.ofList rest) = .behind [] rest := by
    rw [Cursor.ofSource, String.toList_ofList, Cursor.ofChars_eq_behind]
  obtain ⟨program, recorded⟩ := Parser.parseProgram_behind before rest file
  refine ⟨String.ofList before, String.ofList rest, ?_, ?_, ?_, ?_, ?_⟩
  · rw [← String.ofList_append, ← whole, String.ofList_toList]
  · rw [stands, String.length_ofList]
    rfl
  · rw [stands, tokenize, afresh, String.toList_ofList, Cursor.tokens_behind_eq_map]
  · rw [stands, Parser.ofSource, afresh, String.toList_ofList, program]
  · rw [stands, Parser.ofSource, afresh, String.toList_ofList, recorded]

end MonkeySyntax
