import MonkeySyntax.Proofs.Parser.Relocation

/-!
# What is left without places

The parser looks at the kinds and the texts of tokens and at nothing else.  Where the lexemes of two
texts are the same, what they are read as differs in lines and columns only; `unplaced` takes these
away.
-/

set_option autoImplicit false

namespace MonkeySyntax

/-! ## Taking places away -/

def Token.unplaced (token : Token) : Token :=
  { token with line := 0, column := 0 }

def Location.unplaced (location : Location) : Location :=
  { location with line := 0, column := 0 }

def Diagnostic.unplaced (diagnostic : Diagnostic) : Diagnostic :=
  { diagnostic with location := diagnostic.location.unplaced }

/-- The tree over the same tokens without their places. -/
def Node.unplaced (node : Node) : Node :=
  node.relocate Token.unplaced

def StrictError.unplaced : StrictError → StrictError
  | .illegal diagnostic => .illegal diagnostic.unplaced
  | .unnamed cause => .unnamed cause

def unplacedProgram (outcome : Except Diagnostic Node) : Except Diagnostic Node :=
  (outcome.map Node.unplaced).mapError Diagnostic.unplaced

theorem keepsLexeme_unplaced : KeepsLexeme Token.unplaced :=
  ⟨fun _ => rfl, fun _ => rfl⟩

theorem Token.unplaced_eq_of_lexeme {token other : Token} (same : token.lexeme = other.lexeme) :
    token.unplaced = other.unplaced := by
  obtain ⟨kind, chars⟩ := Lexeme.mk.inj same
  rw [unplaced, unplaced, kind, String.toList_inj.mp chars]

theorem map_unplaced_of_lexemes {tokens others : List Token}
    (same : tokens.map Token.lexeme = others.map Token.lexeme) :
    tokens.map Token.unplaced = others.map Token.unplaced := by
  induction tokens generalizing others with
  | nil => rw [List.map_eq_nil_iff.mp same.symm]
  | cons token tokens ih =>
    cases others with
    | nil => simp at same
    | cons other others =>
      obtain ⟨here, later⟩ := List.cons.inj same
      rw [List.map_cons, List.map_cons, Token.unplaced_eq_of_lexeme here, ih later]

/-! ## Strict tokens -/

theorem Fault.diagnostic_unplaced (file : String) (fault : Fault) :
    (fault.relocate Token.unplaced).diagnostic file = (fault.diagnostic file).unplaced :=
  rfl

/-- Programs and diagnostics of texts with the same lexemes differ in their places only. -/
theorem parse_unplaced_of_lexemes {source other : String}
    (lexemes : (tokenize source).map Token.lexeme = (tokenize other).map Token.lexeme)
    (file : String) :
    (Parser.ofSource source file).parseProgram.1.unplaced
        = (Parser.ofSource other file).parseProgram.1.unplaced ∧
      (Parser.ofSource source file).parseProgram.2.diagnostics.toList.map Diagnostic.unplaced
        = (Parser.ofSource other file).parseProgram.2.diagnostics.toList.map
            Diagnostic.unplaced := by
  obtain ⟨tokens, ending, spans, split, segments, parsed⟩ := exists_parse source
  obtain ⟨tokens', ending', spans', split', segments', parsed'⟩ := exists_parse other
  have same := map_unplaced_of_lexemes lexemes
  rw [split, split', List.map_append, List.map_append] at same
  obtain ⟨sameTokens, endings⟩ := List.append_inj' same rfl
  have sameEnding : ending.unplaced = ending'.unplaced := List.singleton_inj.mp endings
  -- Without places both texts are the same tokens, which are cut in one way only.
  have moved := segments.relocate keepsLexeme_unplaced
  have moved' := segments'.relocate keepsLexeme_unplaced
  rw [sameTokens, sameEnding] at moved
  have sameSpans := moved.unique moved'
  obtain ⟨program, recorded⟩ := parsed file
  obtain ⟨program', recorded'⟩ := parsed' file
  constructor
  · rw [program, program', Node.unplaced, Node.unplaced, Node.relocate, Node.relocate,
      Node.relocateAll_eq_map, Node.relocateAll_eq_map,
      ← statements_relocate keepsLexeme_unplaced, ← statements_relocate keepsLexeme_unplaced,
      sameSpans]
  · have sameFaults : (faults ending spans).map (Fault.relocate Token.unplaced)
        = (faults ending' spans').map (Fault.relocate Token.unplaced) := by
      rw [← faults_relocate, ← faults_relocate, sameEnding, sameSpans]
    have reported := congrArg (List.map (Fault.diagnostic file)) sameFaults
    simp only [List.map_map, Function.comp_def, Fault.diagnostic_unplaced] at reported
    rw [recorded, recorded', List.map_map, List.map_map]
    exact reported

theorem unplacedProgram_parseSource {source other : String}
    (lexemes : (tokenize source).map Token.lexeme = (tokenize other).map Token.lexeme)
    (file : String) :
    unplacedProgram (parseSource source file) = unplacedProgram (parseSource other file) := by
  obtain ⟨program, recorded⟩ := parse_unplaced_of_lexemes lexemes file
  rw [parseSource, parseSource]
  cases here : (Parser.ofSource source file).parseProgram.2.diagnostics.toList with
  | nil =>
    rw [here, List.map_nil] at recorded
    rw [List.map_eq_nil_iff.mp recorded.symm]
    exact congrArg Except.ok program
  | cons first later =>
    rw [here, List.map_cons] at recorded
    obtain ⟨first', later', there, same, _⟩ := List.map_eq_cons_iff.mp recorded.symm
    rw [there]
    exact congrArg Except.error same.symm

end MonkeySyntax
