import Mathlib.Data.List.Chain
import Mathlib.Data.List.Forall2
import MonkeySyntax.Proofs.Lexeme.Form

/-!
# Cutting a text into lexemes

A text is a row of lexemes with layout before, between and behind them.  Every text has exactly one
decomposition: its first piece is found by passing over the layout and taking the lexeme that starts
there.
-/

set_option autoImplicit false

namespace MonkeySyntax

def AllLayout (chars : List Char) : Prop :=
  ∀ c ∈ chars, isLayout c = true

-- The instance for `∀ c ∈ chars` might as well run through all characters there are.
instance (chars : List Char) : Decidable (AllLayout chars) :=
  decidable_of_iff (chars.all isLayout = true) List.all_eq_true

structure Piece where
  gap : List Char
  lexeme : Lexeme
deriving DecidableEq, Repr

def Piece.chars (piece : Piece) : List Char :=
  piece.gap ++ piece.lexeme.chars

/-- Two pieces that do not merge, either by themselves or because layout stands between them. -/
def Piece.Apart (left right : Piece) : Prop :=
  right.gap = [] → ¬ left.lexeme.Merges right.lexeme

/-- The pieces, and the layout behind the last of them, spell the text. -/
structure Decomposes (source : List Char) (pieces : List Piece) (last : List Char) : Prop where
  spells : source = pieces.flatMap Piece.chars ++ last
  gaps : ∀ piece ∈ pieces, AllLayout piece.gap
  last_layout : AllLayout last
  forms : ∀ piece ∈ pieces, piece.lexeme.Form
  apart : pieces.IsChain Piece.Apart

namespace Decomposes

theorem nil_iff (source last : List Char) :
    Decomposes source [] last ↔ source = last ∧ AllLayout last := by
  constructor
  · intro whole
    exact ⟨by simpa using whole.spells, whole.last_layout⟩
  · rintro ⟨rfl, layout⟩
    exact ⟨by simp, by simp, layout, by simp, by simp⟩

theorem endsBefore_iff {tail : List Char} {pieces : List Piece} {last : List Char}
    (behind : Decomposes tail pieces last) (lexeme : Lexeme) :
    lexeme.EndsBefore tail ↔
      ∀ next ∈ pieces.head?, next.gap = [] → ¬ lexeme.Merges next.lexeme := by
  cases pieces with
  | nil =>
    obtain ⟨rfl, layout⟩ := (nil_iff tail last).mp behind
    have ends : lexeme.EndsBefore tail := fun c next =>
      lexeme.not_goesOnWith_of_isLayout c (layout c (List.mem_of_mem_head? next))
    simp [ends]
  | cons next pieces =>
    have layout := behind.gaps next List.mem_cons_self
    have form := behind.forms next List.mem_cons_self
    rw [behind.spells, List.flatMap_cons, Piece.chars]
    cases gap : next.gap with
    | nil =>
      obtain ⟨c, more, starts⟩ := List.exists_cons_of_ne_nil form.nonempty
      simp [Lexeme.EndsBefore, gap, starts, form.merges_iff lexeme c more starts]
    | cons g gap' =>
      have ends := lexeme.not_goesOnWith_of_isLayout g (layout g (by simp [gap]))
      simp [Lexeme.EndsBefore, gap, ends]

theorem cons_iff (source : List Char) (piece : Piece) (pieces : List Piece) (last : List Char) :
    Decomposes source (piece :: pieces) last ↔
      ∃ tail, source = piece.gap ++ (piece.lexeme.chars ++ tail) ∧ AllLayout piece.gap ∧
        piece.lexeme.Form ∧ piece.lexeme.EndsBefore tail ∧ Decomposes tail pieces last := by
  constructor
  · intro whole
    obtain ⟨joined, apart⟩ := List.isChain_cons.mp whole.apart
    have behind : Decomposes (pieces.flatMap Piece.chars ++ last) pieces last :=
      ⟨rfl, fun next member => whole.gaps next (List.mem_cons_of_mem _ member), whole.last_layout,
        fun next member => whole.forms next (List.mem_cons_of_mem _ member), apart⟩
    refine ⟨_, ?_, whole.gaps piece List.mem_cons_self, whole.forms piece List.mem_cons_self,
      (behind.endsBefore_iff piece.lexeme).mpr joined, behind⟩
    simp [whole.spells, Piece.chars]
  · rintro ⟨tail, spells, layout, form, ends, behind⟩
    refine ⟨?_, ?_, behind.last_layout, ?_, ?_⟩
    · rw [spells, behind.spells]
      simp [Piece.chars]
    · exact List.forall_mem_cons.mpr ⟨layout, behind.gaps⟩
    · exact List.forall_mem_cons.mpr ⟨form, behind.forms⟩
    · exact List.isChain_cons.mpr ⟨(behind.endsBefore_iff piece.lexeme).mp ends, behind.apart⟩

/-! ## The first piece -/

theorem dropWhile_nil {source last : List Char} (whole : Decomposes source [] last) :
    source.dropWhile isLayout = [] := by
  obtain ⟨rfl, layout⟩ := (nil_iff source last).mp whole
  exact List.dropWhile_eq_nil_iff.mpr layout

theorem first_piece {source : List Char} {piece : Piece} {pieces : List Piece} {last : List Char}
    (whole : Decomposes source (piece :: pieces) last) :
    ∃ c rest tail, source.takeWhile isLayout = piece.gap ∧
      source.dropWhile isLayout = c :: rest ∧ Lexeme.starting c rest = piece.lexeme ∧
      piece.lexeme.chars ++ tail = c :: rest ∧ Decomposes tail pieces last := by
  obtain ⟨tail, spells, layout, form, ends, behind⟩ := (cons_iff _ _ _ _).mp whole
  obtain ⟨c, more, starts⟩ := List.exists_cons_of_ne_nil form.nonempty
  have text : piece.lexeme.chars ++ tail = c :: (more ++ tail) := by rw [starts, List.cons_append]
  have visible := form.isLayout_head c more starts
  have stop : ∀ d ∈ (piece.lexeme.chars ++ tail).head?, isLayout d = false := by
    simpa [text] using visible
  refine ⟨c, more ++ tail, tail, ?_, ?_, ?_, text, behind⟩
  · rw [spells]
    exact takeWhile_append_of_stop isLayout piece.gap _ layout stop
  · rw [spells, ← text]
    exact dropWhile_append_of_stop isLayout piece.gap _ layout stop
  · exact Lexeme.starting_of_form form tail ends c _ text

theorem unique {source : List Char} {pieces others : List Piece} {last otherLast : List Char}
    (whole : Decomposes source pieces last) (other : Decomposes source others otherLast) :
    pieces = others ∧ last = otherLast := by
  induction pieces generalizing source others with
  | nil =>
    cases others with
    | nil =>
      have here := ((nil_iff _ _).mp whole).1
      have there := ((nil_iff _ _).mp other).1
      exact ⟨rfl, here.symm.trans there⟩
    | cons piece others =>
      obtain ⟨c, rest, _, _, found, _⟩ := other.first_piece
      rw [whole.dropWhile_nil] at found
      contradiction
  | cons piece pieces ih =>
    obtain ⟨c, rest, tail, gap, found, taken, text, behind⟩ := whole.first_piece
    cases others with
    | nil =>
      rw [other.dropWhile_nil] at found
      contradiction
    | cons otherPiece others =>
      obtain ⟨d, otherRest, otherTail, otherGap, otherFound, otherTaken, otherText, otherBehind⟩ :=
        other.first_piece
      obtain ⟨rfl, rfl⟩ := List.cons.inj (found.symm.trans otherFound)
      have sameLexeme : piece.lexeme = otherPiece.lexeme := taken.symm.trans otherTaken
      have samePiece : piece = otherPiece := by
        cases piece
        cases otherPiece
        simp_all
      have sameTail : tail = otherTail := by
        rw [sameLexeme, ← otherText] at text
        exact List.append_cancel_left text
      subst sameTail
      obtain ⟨samePieces, sameLast⟩ := ih behind otherBehind
      exact ⟨by rw [samePiece, samePieces], sameLast⟩

end Decomposes

theorem exists_decomposition (source : List Char) :
    ∃ (pieces : List Piece) (last : List Char), Decomposes source pieces last := by
  induction size : source.length using Nat.strong_induction_on generalizing source with
  | _ bound ih =>
    have split := List.takeWhile_append_dropWhile (p := isLayout) (l := source)
    have layout : AllLayout (source.takeWhile isLayout) := fun c member =>
      List.mem_takeWhile_imp member
    cases visible : source.dropWhile isLayout with
    | nil =>
      refine ⟨[], source, (Decomposes.nil_iff source source).mpr ⟨rfl, ?_⟩⟩
      exact List.dropWhile_eq_nil_iff.mp visible
    | cons c rest =>
      have head : isLayout c = false :=
        head?_dropWhile_false isLayout source c (by simp [visible])
      obtain ⟨lexeme, tail, text, form, ends⟩ := Lexeme.exists_form c rest head
      have shorter : tail.length < bound := by
        have positive := List.length_pos_of_ne_nil form.nonempty
        have whole := congrArg List.length split
        rw [visible, ← text, List.length_append, List.length_append] at whole
        omega
      obtain ⟨pieces, last, behind⟩ := ih tail.length shorter tail rfl
      refine ⟨⟨source.takeWhile isLayout, lexeme⟩ :: pieces, last, ?_⟩
      refine (Decomposes.cons_iff _ _ _ _).mpr ⟨tail, ?_, layout, form, ends, behind⟩
      rw [text, ← visible, split]

/-! ## The same lexemes with other layout -/

/-- Layout may be changed freely, except that it must stay where it keeps two lexemes apart. -/
theorem isChain_apart_of_kept {pieces others : List Piece} (apart : pieces.IsChain Piece.Apart)
    (lexemes : others.map Piece.lexeme = pieces.map Piece.lexeme)
    (kept : List.Forall₂ (fun piece other => other.gap = [] → piece.gap = [])
      pieces.tail others.tail) : others.IsChain Piece.Apart := by
  induction pieces generalizing others with
  | nil =>
    rw [List.map_eq_nil_iff.mp lexemes]
    exact List.isChain_nil
  | cons piece pieces ih =>
    cases others with
    | nil => exact List.isChain_nil
    | cons other others =>
      obtain ⟨joint, later⟩ := List.isChain_cons.mp apart
      obtain ⟨sameLexeme, laterLexemes⟩ := List.cons.inj lexemes
      rw [List.tail_cons, List.tail_cons] at kept
      refine List.isChain_cons.mpr ⟨?_, ?_⟩
      · intro following next noGap
        obtain ⟨others, rfl⟩ := List.head?_eq_some_iff.mp next
        obtain ⟨piece', pieces', keptHere, _, rfl⟩ := List.forall₂_cons_right_iff.mp kept
        have sameNext := (List.cons.inj laterLexemes).1
        rw [sameLexeme, sameNext]
        exact joint piece' rfl (keptHere noGap)
      · apply ih later laterLexemes
        cases kept with
        | nil => exact .nil
        | cons _ keptLater => exact keptLater

theorem Decomposes.respace {source : List Char} {pieces others : List Piece}
    {last otherLast : List Char} (whole : Decomposes source pieces last)
    (lexemes : others.map Piece.lexeme = pieces.map Piece.lexeme)
    (gaps : ∀ other ∈ others, AllLayout other.gap) (otherLayout : AllLayout otherLast)
    (kept : List.Forall₂ (fun piece other => other.gap = [] → piece.gap = [])
      pieces.tail others.tail) :
    Decomposes (others.flatMap Piece.chars ++ otherLast) others otherLast where
  spells := rfl
  gaps := gaps
  last_layout := otherLayout
  forms := by
    intro other member
    have listed : other.lexeme ∈ pieces.map Piece.lexeme := by
      rw [← lexemes]
      exact List.mem_map_of_mem member
    obtain ⟨piece, present, same⟩ := List.mem_map.mp listed
    rw [← same]
    exact whole.forms piece present
  apart := isChain_apart_of_kept whole.apart lexemes kept

end MonkeySyntax
