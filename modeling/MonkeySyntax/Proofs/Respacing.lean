import MonkeySyntax.Proofs.Interactive
import MonkeySyntax.Proofs.TokenStream.Joint
import MonkeySyntax.Proofs.Unplaced

/-!
# Texts that differ in layout

The layout of a text is a function of its tokens (`pieces_eq_of_lexemes`), so whether two of them
touch can be asked of any way to spell the text with them.
-/

set_option autoImplicit false

namespace MonkeySyntax

/-! ## Spelling tokens -/

/-- The pieces are the tokens, each with layout before it, and spell the text together with more
layout behind the last. -/
structure SpelledWith (source : List Char) (tokens : List Token) (pieces : List Piece)
    (last : List Char) : Prop where
  lexemes : pieces.map Piece.lexeme = tokens.map Token.lexeme
  spells : source = pieces.flatMap Piece.chars ++ last
  gaps : ∀ piece ∈ pieces, AllLayout piece.gap
  last_layout : AllLayout last

/-- Nothing stands before the token at the index but the token before it. -/
def TouchAt (source : String) (index : Nat) : Prop :=
  ∃ pieces last, SpelledWith source.toList (visibleTokens source.toList) pieces last ∧
    ∃ piece, pieces[index]? = some piece ∧ piece.gap = []

/-- The tokens of a text with one space between each two. -/
def spaced (source : String) : String :=
  " ".intercalate ((visibleTokens source.toList).map Token.text)

/-- Two texts have the same tokens, statements and diagnostics but for lines and columns. -/
structure ReadAlike (source other : String) : Prop where
  lexemes : (tokenize other).map Token.lexeme = (tokenize source).map Token.lexeme
  program : ∀ file, (Parser.ofSource other file).parseProgram.1.unplaced
    = (Parser.ofSource source file).parseProgram.1.unplaced
  diagnostics : ∀ file,
    (Parser.ofSource other file).parseProgram.2.diagnostics.toList.map Diagnostic.unplaced
      = (Parser.ofSource source file).parseProgram.2.diagnostics.toList.map Diagnostic.unplaced
  outcome : ∀ file,
    unplacedProgram (parseSource other file) = unplacedProgram (parseSource source file)

theorem readAlike_of_lexemes {source other : String}
    (lexemes : (tokenize other).map Token.lexeme = (tokenize source).map Token.lexeme) :
    ReadAlike source other where
  lexemes := lexemes
  program := fun file => (parse_unplaced_of_lexemes lexemes file).1
  diagnostics := fun file => (parse_unplaced_of_lexemes lexemes file).2
  outcome := unplacedProgram_parseSource lexemes

/-! ## Other layout -/

theorem Decomposes.map_lexeme_visibleTokens {source : String} {pieces : List Piece} {last : List Char}
    (whole : Decomposes source.toList pieces last) :
    (visibleTokens source.toList).map Token.lexeme = pieces.map Piece.lexeme := by
  rw [whole.visibleTokens_eq, map_lexeme_tokensBehind]

theorem Decomposes.map_lexeme_tokenize {source : String} {pieces : List Piece} {last : List Char}
    (whole : Decomposes source.toList pieces last) :
    (tokenize source).map Token.lexeme = pieces.map Piece.lexeme ++ [.ending] := by
  rw [whole.tokenize_eq, List.map_append, map_lexeme_tokensBehind, List.map_singleton,
    Lexeme.lexeme_tokenBehind]

theorem Decomposes.gap_of_touchAt {source : String} {pieces : List Piece} {last : List Char}
    (whole : Decomposes source.toList pieces last) {index : Nat} (touch : TouchAt source index)
    {piece : Piece} (here : pieces[index]? = some piece) : piece.gap = [] := by
  obtain ⟨others, otherLast, spelled, other, there, noGap⟩ := touch
  have lexemes : pieces.map Piece.lexeme = others.map Piece.lexeme := by
    rw [spelled.lexemes, whole.map_lexeme_visibleTokens]
  have same := pieces_eq_of_lexemes (whole.spells.symm.trans spelled.spells) lexemes whole.forms
    whole.gaps spelled.gaps
  rw [same, there] at here
  rw [← Option.some.inj here]
  exact noGap

theorem readAlike_of_respaced {source respaced : String} {others : List Piece}
    {otherLast : List Char}
    (spelled : SpelledWith respaced.toList (visibleTokens source.toList) others otherLast)
    (kept : ∀ index other, others[index + 1]? = some other → other.gap = [] →
      TouchAt source (index + 1)) : ReadAlike source respaced := by
  obtain ⟨pieces, last, whole⟩ := exists_decomposition source.toList
  have lexemes : others.map Piece.lexeme = pieces.map Piece.lexeme := by
    rw [spelled.lexemes, whole.map_lexeme_visibleTokens]
  have size : others.length = pieces.length := by simpa using congrArg List.length lexemes
  have gaps : List.Forall₂ (fun piece other => other.gap = [] → piece.gap = [])
      pieces.tail others.tail := by
    rw [List.forall₂_iff_get]
    refine ⟨by simp [size], ?_⟩
    intro index inside otherInside noGap
    have here : pieces[index + 1]? = some (pieces.tail.get ⟨index, inside⟩) := by simp
    have there : others[index + 1]? = some (others.tail.get ⟨index, otherInside⟩) := by simp
    exact whole.gap_of_touchAt (kept index _ there noGap) here
  have other := whole.respace lexemes spelled.gaps spelled.last_layout gaps
  rw [← spelled.spells] at other
  apply readAlike_of_lexemes
  rw [other.map_lexeme_tokenize, whole.map_lexeme_tokenize, lexemes]

/-! ## Single spaces -/

def spacedPieces : List Token → List Piece
  | [] => []
  | token :: tokens => ⟨[], token.lexeme⟩ :: tokens.map (fun other => ⟨[' '], other.lexeme⟩)

theorem map_lexeme_spacedPieces (tokens : List Token) :
    (spacedPieces tokens).map Piece.lexeme = tokens.map Token.lexeme := by
  cases tokens with
  | nil => rfl
  | cons token tokens => simp [spacedPieces]

theorem gap_of_spacedPieces (tokens : List Token) (index : Nat) (piece : Piece)
    (here : (spacedPieces tokens)[index + 1]? = some piece) : piece.gap = [' '] := by
  cases tokens with
  | nil => simp [spacedPieces] at here
  | cons token tokens =>
    rw [spacedPieces, List.getElem?_cons_succ, List.getElem?_map] at here
    obtain ⟨other, _, rfl⟩ := Option.map_eq_some_iff.mp here
    rfl

theorem allLayout_spacedPieces (tokens : List Token) :
    ∀ piece ∈ spacedPieces tokens, AllLayout piece.gap := by
  intro piece member
  obtain ⟨index, here⟩ := List.mem_iff_getElem?.mp member
  cases index with
  | zero =>
    cases tokens with
    | nil => simp [spacedPieces] at here
    | cons token tokens =>
      obtain rfl := Option.some.inj here
      simp [AllLayout]
  | succ index =>
    rw [gap_of_spacedPieces tokens index piece here]
    simp [AllLayout, isLayout, layoutChars]

theorem flatMap_spacedPieces (tokens : List Token) :
    (spacedPieces tokens).flatMap Piece.chars
      = [' '].intercalate (tokens.map (fun token => token.text.toList)) := by
  cases tokens with
  | nil => rfl
  | cons token tokens =>
    induction tokens generalizing token with
    | nil => simp [spacedPieces, Piece.chars, Token.lexeme]
    | cons other tokens ih =>
      have later := ih other
      rw [List.map_cons] at later
      rw [List.map_cons, List.map_cons, List.intercalate_cons_cons, ← later]
      simp [spacedPieces, Piece.chars, Token.lexeme]

theorem spelledWith_spaced (source : String) :
    SpelledWith (spaced source).toList (visibleTokens source.toList)
      (spacedPieces (visibleTokens source.toList)) [] where
  lexemes := map_lexeme_spacedPieces _
  spells := by
    rw [List.append_nil, flatMap_spacedPieces, spaced, String.toList_intercalate, List.map_map]
    rfl
  gaps := allLayout_spacedPieces _
  last_layout := by simp [AllLayout]

theorem readAlike_spaced (source : String) : ReadAlike source (spaced source) := by
  apply readAlike_of_respaced (spelledWith_spaced source)
  intro index other there noGap
  have space := gap_of_spacedPieces _ index other there
  rw [noGap] at space
  contradiction

theorem map_text_eq (tokens : List Token) :
    tokens.map Token.text
      = (tokens.map Token.lexeme).map (fun lexeme => String.ofList lexeme.chars) := by
  rw [List.map_map]
  simp [Token.lexeme, Function.comp_def]

theorem ReadAlike.spaced_eq {source other : String} (alike : ReadAlike source other) :
    spaced other = spaced source := by
  obtain ⟨pieces, last, whole⟩ := exists_decomposition source.toList
  obtain ⟨others, otherLast, otherWhole⟩ := exists_decomposition other.toList
  have lexemes := alike.lexemes
  rw [whole.map_lexeme_tokenize, otherWhole.map_lexeme_tokenize] at lexemes
  rw [spaced, spaced, map_text_eq, map_text_eq, whole.map_lexeme_visibleTokens,
    otherWhole.map_lexeme_visibleTokens, List.append_cancel_right lexemes]

/-- A text whose tokens are set with other layout, which is missing only where the tokens touched
before, is read alike but for lines and columns.  Setting the tokens with single spaces is a case of
this, and changes nothing when it is done again. -/
theorem respaced_read_alike (source : String) :
    (∀ (respaced : String) (others : List Piece) (otherLast : List Char),
        SpelledWith respaced.toList (visibleTokens source.toList) others otherLast →
        (∀ index other, others[index + 1]? = some other → other.gap = [] →
          TouchAt source (index + 1)) →
        ReadAlike source respaced) ∧
      ReadAlike source (spaced source) ∧ spaced (spaced source) = spaced source :=
  ⟨fun _ _ _ spelled kept => readAlike_of_respaced spelled kept, readAlike_spaced source,
    (readAlike_spaced source).spaced_eq⟩

/-- The number still touches the sign before it, and the sign no longer the name. -/
theorem respaced_let_alike : ReadAlike "let x=1" "\tlet\nx =1 " := by
  have own : SpelledWith "let x=1".toList (visibleTokens "let x=1".toList)
      [⟨[], ⟨.letWord, ['l', 'e', 't']⟩⟩, ⟨[' '], ⟨.ident, ['x']⟩⟩, ⟨[], ⟨.assign, ['=']⟩⟩,
        ⟨[], ⟨.int, ['1']⟩⟩] [] :=
    ⟨by decide +kernel, by decide, by decide, by decide⟩
  have respaced : SpelledWith "\tlet\nx =1 ".toList (visibleTokens "let x=1".toList)
      [⟨['\t'], ⟨.letWord, ['l', 'e', 't']⟩⟩, ⟨['\n'], ⟨.ident, ['x']⟩⟩,
        ⟨[' '], ⟨.assign, ['=']⟩⟩, ⟨[], ⟨.int, ['1']⟩⟩] [' '] :=
    ⟨by decide +kernel, by decide, by decide, by decide⟩
  apply (respaced_read_alike "let x=1").1 _ _ _ respaced
  intro index other here noGap
  have last : index = 2 := by
    match index with
    | 0 | 1 =>
      obtain rfl := Option.some.inj here
      contradiction
    | 2 => rfl
    | index + 3 => simp at here
  rw [last]
  exact ⟨_, [], own, ⟨[], ⟨.int, ['1']⟩⟩, rfl, rfl⟩

end MonkeySyntax
