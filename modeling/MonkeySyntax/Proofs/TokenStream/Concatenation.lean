import MonkeySyntax.Proofs.TokenStream.Placement

/-!
# Putting two texts together

When the last lexeme of a text ends where another text starts, the lexemes of both together are the
lexemes of the one and then those of the other; layout at the joint goes to the lexeme behind it.
-/

set_option autoImplicit false

namespace MonkeySyntax

/-- The last lexeme of a text does not reach into the text `next`. -/
def EndsAtJoint (pieces : List Piece) (last next : List Char) : Prop :=
  last = [] → ∀ piece ∈ pieces.getLast?, piece.lexeme.EndsBefore next

theorem EndsAtJoint.tail {piece : Piece} {pieces : List Piece} {last next : List Char}
    (joint : EndsAtJoint (piece :: pieces) last next) : EndsAtJoint pieces last next := by
  intro noLayout other final
  apply joint noLayout other
  cases pieces with
  | nil => simp at final
  | cons second pieces => simpa using final

theorem Lexeme.EndsBefore.append {lexeme : Lexeme} {tail next : List Char}
    (ends : lexeme.EndsBefore tail) (joint : tail = [] → lexeme.EndsBefore next) :
    lexeme.EndsBefore (tail ++ next) := by
  cases tail with
  | nil => exact joint rfl
  | cons c tail => exact ends

theorem Decomposes.eq_nil_of_nil {pieces : List Piece} {last : List Char}
    (whole : Decomposes [] pieces last) : pieces = [] ∧ last = [] :=
  whole.unique ((Decomposes.nil_iff [] []).mpr ⟨rfl, by simp [AllLayout]⟩)

theorem Decomposes.append {source next : List Char} {pieces others : List Piece}
    {last otherLast : List Char} (left : Decomposes source pieces last)
    (right : Decomposes next others otherLast) (joint : EndsAtJoint pieces last next) :
    ∃ (joined : List Piece) (joinedLast : List Char),
      Decomposes (source ++ next) joined joinedLast ∧
        ∀ before, tokensBehind before joined
          = tokensBehind before pieces ++ tokensBehind (before ++ source) others := by
  induction pieces generalizing source with
  | nil =>
    obtain ⟨rfl, layout⟩ := (Decomposes.nil_iff source last).mp left
    cases others with
    | nil =>
      obtain ⟨rfl, otherLayout⟩ := (Decomposes.nil_iff next otherLast).mp right
      refine ⟨[], source ++ next, (Decomposes.nil_iff _ _).mpr ⟨rfl, ?_⟩, fun before => rfl⟩
      exact List.forall_mem_append.mpr ⟨layout, otherLayout⟩
    | cons piece others =>
      obtain ⟨tail, spells, gap, form, ends, later⟩ := (Decomposes.cons_iff _ _ _ _).mp right
      refine ⟨⟨source ++ piece.gap, piece.lexeme⟩ :: others, otherLast, ?_, ?_⟩
      · apply (Decomposes.cons_iff _ _ _ _).mpr
        refine ⟨tail, ?_, List.forall_mem_append.mpr ⟨layout, gap⟩, form, ends, later⟩
        rw [spells, List.append_assoc]
      · intro before
        simp [tokensBehind, Piece.chars]
  | cons piece pieces ih =>
    obtain ⟨tail, spells, gap, form, ends, later⟩ := (Decomposes.cons_iff _ _ _ _).mp left
    obtain ⟨joined, joinedLast, whole, placed⟩ := ih later joint.tail
    have reaches : tail = [] → piece.lexeme.EndsBefore next := by
      rintro rfl
      obtain ⟨rfl, rfl⟩ := later.eq_nil_of_nil
      exact joint rfl piece rfl
    refine ⟨piece :: joined, joinedLast, ?_, ?_⟩
    · apply (Decomposes.cons_iff _ _ _ _).mpr
      refine ⟨tail ++ next, ?_, gap, form, ends.append reaches, whole⟩
      rw [spells, List.append_assoc, List.append_assoc]
    · intro before
      rw [tokensBehind, tokensBehind, placed, spells]
      simp [Piece.chars]

/-! ## The last character -/

theorem Decomposes.ends_visibly {source : List Char} {pieces : List Piece} {last : List Char}
    (whole : Decomposes source pieces last) (c : Char) (final : source.getLast? = some c)
    (visible : isLayout c = false) :
    last = [] ∧ ∃ piece ∈ pieces.getLast?, piece.lexeme.chars.getLast? = some c := by
  rw [whole.spells, List.getLast?_append] at final
  have noLayout : last = [] := by
    rcases List.eq_nil_or_concat' last with ended | ⟨early, d, rfl⟩
    · exact ended
    · have same : d = c := by simpa using final
      have layout := whole.last_layout d (by simp)
      rw [same, visible] at layout
      contradiction
  refine ⟨noLayout, ?_⟩
  rw [noLayout, List.getLast?_nil, Option.none_or] at final
  rcases List.eq_nil_or_concat' pieces with rfl | ⟨earlier, piece, rfl⟩
  · simp at final
  · refine ⟨piece, by simp, ?_⟩
    rcases List.eq_nil_or_concat' piece.lexeme.chars with empty | ⟨front, d, concat⟩
    · exact absurd empty (whole.forms piece (by simp)).nonempty
    · simpa [Piece.chars, concat] using final

theorem Decomposes.suffix_of_getLast? {source : List Char} {pieces : List Piece}
    (whole : Decomposes source pieces []) {piece : Piece} (final : piece ∈ pieces.getLast?) :
    piece.lexeme.chars <:+ source := by
  obtain ⟨earlier, rfl⟩ := List.getLast?_eq_some_iff.mp final
  refine ⟨earlier.flatMap Piece.chars ++ piece.gap, ?_⟩
  rw [whole.spells, List.flatMap_append, List.flatMap_singleton, Piece.chars, List.append_nil,
    List.append_assoc]

/-! ## A semicolon at the end -/

theorem Lexeme.Form.eq_semicolon {lexeme : Lexeme} (form : lexeme.Form)
    (present : ';' ∈ lexeme.chars) : lexeme = ⟨.semicolon, [';']⟩ := by
  cases form with
  | word chars kind nonempty letters reads => exact absurd (letters ';' present) (by decide)
  | number chars nonempty digits => exact absurd (digits ';' present) (by decide)
  | equal | notEqual | assign | bang => exact absurd present (by decide)
  | symbol c kind listed =>
    have same : c = ';' := (List.mem_singleton.mp present).symm
    subst same
    have known := (symbolKind?_eq_some_iff ';' kind).mpr listed
    have fixed : symbolKind? ';' = some .semicolon := by decide
    rw [Option.some.inj (known.symm.trans fixed)]
  | stray c outside =>
    have same : c = ';' := (List.mem_singleton.mp present).symm
    subst same
    exact absurd (by decide) (outside.symbol .semicolon)

theorem Lexeme.semicolon_endsBefore (next : List Char) :
    Lexeme.EndsBefore ⟨.semicolon, [';']⟩ next :=
  Lexeme.Form.endsBefore_single .semicolon ';' (by decide) (by decide) (by decide) (by decide)
    (.symbol ';' .semicolon (by decide)) next

theorem Decomposes.ends_in_semicolon {source : List Char} {pieces : List Piece} {last : List Char}
    (whole : Decomposes (source ++ [';']) pieces last) :
    last = [] ∧ ∃ earlier gap, pieces = earlier ++ [⟨gap, ⟨.semicolon, [';']⟩⟩] := by
  obtain ⟨noLayout, piece, final, ends⟩ :=
    whole.ends_visibly ';' (List.getLast?_concat ..) (by decide)
  obtain ⟨earlier, rfl⟩ := List.getLast?_eq_some_iff.mp final
  have form := whole.forms piece (by simp)
  have semicolon := form.eq_semicolon (List.mem_of_getLast? ends)
  refine ⟨noLayout, earlier, piece.gap, ?_⟩
  rw [← semicolon]

end MonkeySyntax
