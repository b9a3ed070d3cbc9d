import MonkeySyntax.Proofs.Text.Lines
import MonkeySyntax.Proofs.TokenStream.Placement

/-!
# Tokens and line ends

Unifying the line ends of a text changes the layout between its lexemes and nothing else.  Where
every carriage return stands before a line feed, all tokens stay where they are.
-/

set_option autoImplicit false

namespace MonkeySyntax

def Piece.unified (piece : Piece) : Piece :=
  ⟨Text.unifyLineEnds piece.gap, piece.lexeme⟩

theorem AllLayout.unifyLineEnds {chars : List Char} (all : AllLayout chars) :
    AllLayout (Text.unifyLineEnds chars) := by
  intro c member
  rcases Text.mem_of_mem_unifyLineEnds chars c member with inside | rfl
  · exact all c inside
  · decide

theorem Lexeme.Form.return_not_mem {lexeme : Lexeme} (form : lexeme.Form) :
    '\r' ∉ lexeme.chars := by
  intro present
  exact absurd (form.isLayout_of_mem '\r' present) (by decide)

theorem Lexeme.Form.head?_append_ne_newline {lexeme : Lexeme} (form : lexeme.Form)
    (tail : List Char) : (lexeme.chars ++ tail).head? ≠ some '\n' := by
  obtain ⟨c, more, starts⟩ := List.exists_cons_of_ne_nil form.nonempty
  have visible := form.isLayout_head c more starts
  rw [starts]
  intro newline
  obtain rfl : c = '\n' := Option.some.inj newline
  exact absurd visible (by decide)

namespace Decomposes

variable {source : List Char} {pieces : List Piece} {last : List Char}

theorem unifyLineEnds_eq (whole : Decomposes source pieces last) :
    Text.unifyLineEnds source
      = (pieces.map Piece.unified).flatMap Piece.chars ++ Text.unifyLineEnds last := by
  induction pieces generalizing source with
  | nil =>
    obtain ⟨rfl, _⟩ := (nil_iff source last).mp whole
    rfl
  | cons piece pieces ih =>
    obtain ⟨tail, rfl, _, form, _, later⟩ := (cons_iff _ _ _ _).mp whole
    rw [Text.unifyLineEnds_append _ _ (form.head?_append_ne_newline tail),
      Text.unifyLineEnds_append_of_plain _ _ form.return_not_mem, ih later, List.map_cons,
      List.flatMap_cons, Piece.chars, Piece.unified, List.append_assoc, List.append_assoc]

theorem unifyLineEnds (whole : Decomposes source pieces last) :
    Decomposes (Text.unifyLineEnds source) (pieces.map Piece.unified)
      (Text.unifyLineEnds last) := by
  rw [whole.unifyLineEnds_eq]
  apply whole.respace
  · rw [List.map_map]
    rfl
  · intro other member
    obtain ⟨piece, present, rfl⟩ := List.mem_map.mp member
    exact (whole.gaps piece present).unifyLineEnds
  · exact whole.last_layout.unifyLineEnds
  · rw [← List.map_tail, List.forall₂_map_right_iff]
    apply List.forall₂_same.mpr
    intro piece _ empty
    exact Text.eq_nil_of_unifyLineEnds piece.gap empty

end Decomposes

/-- Behind both texts a token is reported at the same line and column. -/
structure SamePlace (first second : List Char) : Prop where
  lines : first.count '\n' = second.count '\n'
  columns : (openLine first).length = (openLine second).length

namespace SamePlace

theorem refl (chars : List Char) : SamePlace chars chars :=
  ⟨rfl, rfl⟩

theorem append {first second early late : List Char} (front : SamePlace first second)
    (back : SamePlace early late) : SamePlace (first ++ early) (second ++ late) := by
  constructor
  · rw [List.count_append, List.count_append, front.lines, back.lines]
  · have newline : '\n' ∈ early ↔ '\n' ∈ late := by
      rw [← List.count_pos_iff, ← List.count_pos_iff, back.lines]
    rw [openLine_append, openLine_append]
    by_cases present : '\n' ∈ early
    · rw [if_pos present, if_pos (newline.mp present), back.columns]
    · have absent := newline.not.mp present
      have lengths := back.columns
      rw [openLine_eq_self early present, openLine_eq_self late absent] at lengths
      rw [if_neg present, if_neg absent, List.length_append, List.length_append, front.columns,
        lengths]

end SamePlace

end MonkeySyntax
