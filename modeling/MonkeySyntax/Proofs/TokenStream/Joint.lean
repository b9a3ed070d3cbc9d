import MonkeySyntax.Proofs.TokenStream.Concatenation
import MonkeySyntax.Proofs.TokenStream.Shift

/-!
# When two texts are read apart

In one direction the lexemes of both texts decompose the whole text.  In the other, equal tokens
have equal lexemes, and lexemes leave no choice for the layout between them; so the pieces of both
texts, put side by side, are the decomposition of the whole text, and the two at the joint do not
merge.
-/

set_option autoImplicit false

namespace MonkeySyntax

/-- The ways in which a token of two texts together can reach from the first into the second. -/
inductive Straddles (a b : String) : Prop
  | word (c d : Char) (before : a.toList.getLast? = some c) (behind : b.toList.head? = some d)
      (letters : isLetter c = true ∧ isLetter d = true)
  | number (c d : Char) (before : a.toList.getLast? = some c) (behind : b.toList.head? = some d)
      (digits : isDigit c = true ∧ isDigit d = true)
  /-- The last token before the end is `=` or `!`, and nothing stands behind it. -/
  | sign (token : Token) (last : (tokenize a).dropLast.getLast? = some token)
      (kind : token.kind = .assign ∨ token.kind = .bang)
      (ends : token.text.toList <:+ a.toList) (behind : b.toList.head? = some '=')

/-! ## What stands before the joint -/

namespace Decomposes

variable {source : List Char} {pieces : List Piece} {last : List Char}

theorem ends_within (whole : Decomposes source pieces last) (member : Char → Bool)
    (run : RunClass member) (c : Char) (final : source.getLast? = some c)
    (inside : member c = true) :
    last = [] ∧ ∃ piece ∈ pieces.getLast?, piece.lexeme.Within member := by
  obtain ⟨noLayout, piece, closing, ends⟩ := whole.ends_visibly c final (run.apart c inside).1
  have form := whole.forms piece (List.mem_of_getLast? closing)
  have present : c ∈ piece.lexeme.chars := List.mem_of_getLast? ends
  exact ⟨noLayout, piece, closing, (form.within_iff_of_mem member run c present).mpr inside⟩

theorem getLast?_of_within (whole : Decomposes source pieces []) {piece : Piece}
    (final : piece ∈ pieces.getLast?) (member : Char → Bool)
    (within : piece.lexeme.Within member) :
    ∃ c, source.getLast? = some c ∧ member c = true := by
  obtain ⟨front, spells⟩ := whole.suffix_of_getLast? final
  have form := whole.forms piece (List.mem_of_getLast? final)
  rcases List.eq_nil_or_concat' piece.lexeme.chars with empty | ⟨early, c, concat⟩
  · exact absurd empty form.nonempty
  · refine ⟨c, ?_, within c (by simp [concat])⟩
    rw [← spells, concat, ← List.append_assoc, List.getLast?_concat]

end Decomposes

theorem exists_last_token_iff (before : List Char) (pieces : List Piece) (lexeme : Lexeme) :
    (∃ token, (tokensBehind before pieces).getLast? = some token ∧ token.lexeme = lexeme) ↔
      ∃ piece, pieces.getLast? = some piece ∧ piece.lexeme = lexeme := by
  rw [← Option.map_eq_some_iff, ← Option.map_eq_some_iff, ← List.getLast?_map,
    ← List.getLast?_map, map_lexeme_tokensBehind]

theorem Decomposes.eq_nil_of_sign_suffix {source : List Char} {pieces : List Piece}
    {last : List Char} (whole : Decomposes source pieces last) (chars : List Char)
    (sign : chars = ['='] ∨ chars = ['!']) (ends : chars <:+ source) : last = [] := by
  obtain ⟨front, rfl⟩ := ends
  rcases sign with rfl | rfl
  · exact (whole.ends_visibly '=' (by simp) (by decide)).1
  · exact (whole.ends_visibly '!' (by simp) (by decide)).1

theorem Decomposes.ends_in_sign_iff {a : String} {pieces : List Piece} {last : List Char}
    (whole : Decomposes a.toList pieces last) :
    (∃ token, (tokenize a).dropLast.getLast? = some token ∧
        (token.kind = .assign ∨ token.kind = .bang) ∧ token.text.toList <:+ a.toList) ↔
      last = [] ∧
        ∃ piece ∈ pieces.getLast?, piece.lexeme.chars = ['='] ∨ piece.lexeme.chars = ['!'] := by
  rw [whole.tokenize_eq, List.dropLast_concat]
  constructor
  · rintro ⟨token, final, kind, ends⟩
    obtain ⟨piece, closing, same⟩ :=
      (exists_last_token_iff [] pieces token.lexeme).mp ⟨token, final, rfl⟩
    have form := whole.forms piece (List.mem_of_getLast? closing)
    rw [same] at form
    have sign := form.isSign_iff.mp kind
    refine ⟨whole.eq_nil_of_sign_suffix _ sign ends, piece, closing, ?_⟩
    rw [same]
    exact sign
  · rintro ⟨rfl, piece, closing, sign⟩
    obtain ⟨token, final, same⟩ :=
      (exists_last_token_iff [] pieces piece.lexeme).mpr ⟨piece, closing, rfl⟩
    have kind := (whole.forms piece (List.mem_of_getLast? closing)).isSign_iff.mpr sign
    have ends := whole.suffix_of_getLast? closing
    rw [← same] at kind ends
    exact ⟨token, final, kind, ends⟩

theorem not_endsAtJoint_iff (pieces : List Piece) (last next : List Char) :
    ¬ EndsAtJoint pieces last next ↔
      last = [] ∧ ∃ piece ∈ pieces.getLast?, ∃ c ∈ next.head?, piece.lexeme.GoesOnWith c := by
  simp [EndsAtJoint, Lexeme.EndsBefore]

theorem straddles_iff {a : String} {pieces : List Piece} {last : List Char}
    (whole : Decomposes a.toList pieces last) (b : String) :
    Straddles a b ↔ ¬ EndsAtJoint pieces last b.toList := by
  rw [not_endsAtJoint_iff]
  constructor
  · intro straddles
    cases straddles with
    | word c d before behind letters =>
      obtain ⟨noLayout, piece, closing, within⟩ :=
        whole.ends_within isLetter .letter c before letters.1
      exact ⟨noLayout, piece, closing, d, behind, Or.inl ⟨within, letters.2⟩⟩
    | number c d before behind digits =>
      obtain ⟨noLayout, piece, closing, within⟩ :=
        whole.ends_within isDigit .digit c before digits.1
      exact ⟨noLayout, piece, closing, d, behind, Or.inr (Or.inl ⟨within, digits.2⟩)⟩
    | sign token final kind ends behind =>
      obtain ⟨noLayout, piece, closing, sign⟩ :=
        whole.ends_in_sign_iff.mp ⟨token, final, kind, ends⟩
      exact ⟨noLayout, piece, closing, '=', behind, Or.inr (Or.inr ⟨sign, rfl⟩)⟩
  · rintro ⟨rfl, piece, closing, d, behind, goesOn⟩
    rcases goesOn with ⟨within, letter⟩ | ⟨within, digit⟩ | ⟨sign, rfl⟩
    · obtain ⟨c, before, inside⟩ := whole.getLast?_of_within closing isLetter within
      exact .word c d before behind ⟨inside, letter⟩
    · obtain ⟨c, before, inside⟩ := whole.getLast?_of_within closing isDigit within
      exact .number c d before behind ⟨inside, digit⟩
    · obtain ⟨token, final, kind, ends⟩ :=
        whole.ends_in_sign_iff.mpr ⟨rfl, piece, closing, sign⟩
      exact .sign token final kind ends behind

/-! ## The layout between lexemes -/

theorem pieces_eq_of_lexemes {pieces others : List Piece} {last otherLast : List Char}
    (spells : pieces.flatMap Piece.chars ++ last = others.flatMap Piece.chars ++ otherLast)
    (lexemes : pieces.map Piece.lexeme = others.map Piece.lexeme)
    (forms : ∀ piece ∈ pieces, piece.lexeme.Form)
    (gaps : ∀ piece ∈ pieces, AllLayout piece.gap)
    (otherGaps : ∀ piece ∈ others, AllLayout piece.gap) : pieces = others := by
  induction pieces generalizing others with
  | nil => exact (List.map_eq_nil_iff.mp lexemes.symm).symm
  | cons piece pieces ih =>
    cases others with
    | nil => simp at lexemes
    | cons other others =>
      obtain ⟨sameLexeme, laterLexemes⟩ := List.cons.inj lexemes
      obtain ⟨form, laterForms⟩ := List.forall_mem_cons.mp forms
      obtain ⟨gap, laterGaps⟩ := List.forall_mem_cons.mp gaps
      obtain ⟨otherGap, laterOtherGaps⟩ := List.forall_mem_cons.mp otherGaps
      simp only [List.flatMap_cons, Piece.chars, List.append_assoc, ← sameLexeme] at spells
      obtain ⟨c, more, starts⟩ := List.exists_cons_of_ne_nil form.nonempty
      have visible := form.isLayout_head c more starts
      have stop : ∀ rest : List Char, ∀ d ∈ (piece.lexeme.chars ++ rest).head?,
          isLayout d = false := by
        simpa [starts] using visible
      have sameGap : piece.gap = other.gap := by
        have taken := congrArg (List.takeWhile isLayout) spells
        rwa [takeWhile_append_of_stop isLayout _ _ gap (stop _),
          takeWhile_append_of_stop isLayout _ _ otherGap (stop _)] at taken
      rw [sameGap] at spells
      have later := List.append_cancel_left (List.append_cancel_left spells)
      rw [ih later laterLexemes laterForms laterGaps laterOtherGaps]
      cases piece
      cases other
      simp_all

/-! ## The joint -/

/-- When the lexemes of two texts are those of both together, no lexeme straddles the joint. -/
theorem endsAtJoint_of_lexemes {source next : List Char} {pieces others joined : List Piece}
    {last otherLast joinedLast : List Char} (left : Decomposes source pieces last)
    (right : Decomposes next others otherLast)
    (whole : Decomposes (source ++ next) joined joinedLast)
    (lexemes : joined.map Piece.lexeme = (pieces ++ others).map Piece.lexeme) :
    EndsAtJoint pieces last next := by
  rintro rfl piece final
  have spells : joined.flatMap Piece.chars ++ joinedLast
      = (pieces ++ others).flatMap Piece.chars ++ otherLast := by
    rw [← whole.spells, List.flatMap_append, List.append_assoc, ← right.spells, left.spells]
    simp
  have gaps : ∀ piece ∈ pieces ++ others, AllLayout piece.gap :=
    List.forall_mem_append.mpr ⟨left.gaps, right.gaps⟩
  have apart := whole.apart
  rw [pieces_eq_of_lexemes spells lexemes whole.forms whole.gaps gaps] at apart
  obtain ⟨_, _, joint⟩ := List.isChain_append.mp apart
  refine (right.endsBefore_iff piece.lexeme).mpr fun following first => ?_
  exact joint piece final following first

/-- The tokens of a text in two parts are those of the parts, the second moved behind the first,
exactly when no token straddles the joint. -/
theorem tokenize_append_iff (a b : String) :
    tokenize (a ++ b) = (tokenize a).dropLast ++ (tokenize b).map (Token.behind a.toList) ↔
      ¬ Straddles a b := by
  obtain ⟨pieces, last, left⟩ := exists_decomposition a.toList
  obtain ⟨others, otherLast, right⟩ := exists_decomposition b.toList
  have apart : (tokenize a).dropLast ++ (tokenize b).map (Token.behind a.toList)
      = tokensBehind [] pieces ++ tokensBehind a.toList others
          ++ [Lexeme.ending.tokenBehind (a ++ b).toList] := by
    rw [left.tokenize_eq, right.tokenize_eq, List.dropLast_concat, List.map_append,
      ← tokensBehind_eq_map_behind, String.toList_append, Lexeme.tokenBehind_append,
      List.append_assoc]
    rfl
  rw [apart, straddles_iff left b, not_not]
  constructor
  · intro same
    obtain ⟨joined, joinedLast, whole⟩ := exists_decomposition (a ++ b).toList
    rw [whole.tokenize_eq] at same
    rw [String.toList_append] at whole
    have lexemes := congrArg (List.map Token.lexeme) (List.append_cancel_right same)
    rw [List.map_append, map_lexeme_tokensBehind, map_lexeme_tokensBehind,
      map_lexeme_tokensBehind, ← List.map_append] at lexemes
    exact endsAtJoint_of_lexemes left right whole lexemes
  · intro joint
    obtain ⟨joined, joinedLast, whole, placed⟩ := left.append right joint
    rw [← String.toList_append] at whole
    rw [whole.tokenize_eq, placed, List.nil_append]

end MonkeySyntax
