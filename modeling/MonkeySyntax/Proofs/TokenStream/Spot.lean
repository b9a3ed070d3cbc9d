import Mathlib.Data.Prod.Lex
import MonkeySyntax.Proofs.TokenStream.Placement

/-!
# Where tokens stand

`place_append` compares what is reported behind a text with what is reported further on.  That the
places never go back, and when two neighbours share one, follows from this comparison alone.
-/

set_option autoImplicit false

namespace MonkeySyntax

structure Spot where
  offset : Nat
  token : Token
deriving DecidableEq, Repr

/-- The offsets at which the lexemes of the pieces start, the first piece starting at `start`. -/
def offsetsFrom : Nat → List Piece → List Nat
  | _, [] => []
  | start, piece :: pieces =>
    (start + piece.gap.length) :: offsetsFrom (start + piece.chars.length) pieces

/-- The spots are the lexemes of the text, each with the offset where it starts, and its end. -/
def LaidOut (source : List Char) (spots : List Spot) : Prop :=
  ∃ (pieces : List Piece) (last : List Char),
    Decomposes source pieces last ∧
      spots.map (fun spot => spot.token.lexeme) = pieces.map Piece.lexeme ++ [.ending] ∧
      spots.map Spot.offset = offsetsFrom 0 pieces ++ [source.length]

theorem LaidOut.offsets_unique {source : List Char} {spots others : List Spot}
    (laid : LaidOut source spots) (other : LaidOut source others) :
    others.map Spot.offset = spots.map Spot.offset := by
  obtain ⟨pieces, last, whole, _, offsets⟩ := laid
  obtain ⟨otherPieces, otherLast, otherWhole, _, otherOffsets⟩ := other
  rw [offsets, otherOffsets, (otherWhole.unique whole).1]

/-! ## Places -/

def columnAt (source : List Char) (offset : Nat) : Nat :=
  1 + (openLine (source.take offset)).length

/-- The kinds that are reported one column too far left, at the start of a line in column zero. -/
def Kind.LeansLeft (kind : Kind) : Prop :=
  kind = .illegal ∨ kind = .eof

/-- The line and the column reported for a token, ordered by lines first. -/
def Token.place (token : Token) : Lex (Int × Int) :=
  toLex (token.line, token.column)

/-- The text of the token is found at the offset, and its line and its column are those of the
offset, but for the column of an illegal token or of the end. -/
structure Spot.Exact (source : List Char) (spot : Spot) : Prop where
  found : spot.token.text.toList <+: source.drop spot.offset
  line_eq : spot.token.line = 1 + (source.take spot.offset).count '\n'
  column_eq :
    (spot.token.kind.LeansLeft ∧ spot.token.column + 1 = columnAt source spot.offset) ∨
      (¬ spot.token.kind.LeansLeft ∧ spot.token.column = columnAt source spot.offset)

theorem Kind.reportedColumn_cases (kind : Kind) (column : Nat) :
    (kind.LeansLeft ∧ kind.reportedColumn column + 1 = column) ∨
      (¬ kind.LeansLeft ∧ kind.reportedColumn column = column) := by
  by_cases leans : kind.LeansLeft
  · have less : kind.reportedColumn column = (column : Int) - 1 := if_pos leans
    exact Or.inl ⟨leans, by omega⟩
  · exact Or.inr ⟨leans, if_neg leans⟩

namespace Lexeme

def spotBehind (before : List Char) (lexeme : Lexeme) : Spot :=
  ⟨before.length, lexeme.tokenBehind before⟩

theorem column_cases (before : List Char) (lexeme : Lexeme) :
    (lexeme.kind.LeansLeft ∧
        (lexeme.tokenBehind before).column + 1 = (1 + (openLine before).length : Nat)) ∨
      (¬ lexeme.kind.LeansLeft ∧
        (lexeme.tokenBehind before).column = (1 + (openLine before).length : Nat)) :=
  lexeme.kind.reportedColumn_cases _

theorem exact_spotBehind (before tail : List Char) (lexeme : Lexeme) :
    (lexeme.spotBehind before).Exact (before ++ (lexeme.chars ++ tail)) := by
  have passed : (before ++ (lexeme.chars ++ tail)).take before.length = before := List.take_left
  refine ⟨?_, ?_, ?_⟩
  · simp [spotBehind, tokenBehind]
  · simp [spotBehind, tokenBehind]
  · rw [spotBehind, columnAt, passed]
    exact lexeme.column_cases before

theorem place_append (before more : List Char) (nonempty : more ≠ []) (first second : Lexeme) :
    (first.tokenBehind before).place ≤ (second.tokenBehind (before ++ more)).place ∧
      ((first.tokenBehind before).place = (second.tokenBehind (before ++ more)).place ↔
        '\n' ∉ more ∧ more.length = 1 ∧ second.kind.LeansLeft ∧ ¬ first.kind.LeansLeft) := by
  have positive := List.length_pos_of_ne_nil nonempty
  have lines : (second.tokenBehind (before ++ more)).line
      = (first.tokenBehind before).line + more.count '\n' := by
    simp [tokenBehind, Int.add_assoc]
  rw [Token.place, Token.place, Prod.Lex.toLex_le_toLex, toLex_inj, Prod.mk.injEq, lines]
  by_cases newline : '\n' ∈ more
  · have below := List.count_pos_iff.mpr newline
    simp only [newline, not_true_eq_false, false_and, iff_false]
    omega
  · have sameLine := List.count_eq_zero.mpr newline
    have longer : (openLine (before ++ more)).length = (openLine before).length + more.length := by
      rw [openLine_append, if_neg newline, List.length_append]
    -- On one line the columns differ by what stands between, and by one where a kind leans left.
    rcases first.column_cases before with ⟨firstKind, firstColumn⟩ | ⟨firstKind, firstColumn⟩
    all_goals
      rcases second.column_cases (before ++ more) with
        ⟨secondKind, secondColumn⟩ | ⟨secondKind, secondColumn⟩
    all_goals
      simp only [newline, firstKind, secondKind, not_true_eq_false, not_false_eq_true, and_true,
        and_false, true_and, iff_false]
      omega

end Lexeme

/-! ## The spots of a text -/

def spotsBehind : List Char → List Piece → List Spot
  | _, [] => []
  | before, piece :: pieces =>
    piece.lexeme.spotBehind (before ++ piece.gap) :: spotsBehind (before ++ piece.chars) pieces

theorem map_token_spotsBehind (before : List Char) (pieces : List Piece) :
    (spotsBehind before pieces).map Spot.token = tokensBehind before pieces := by
  induction pieces generalizing before with
  | nil => rfl
  | cons piece pieces ih =>
    rw [spotsBehind, List.map_cons, ih]
    rfl

theorem map_offset_spotsBehind (before : List Char) (pieces : List Piece) :
    (spotsBehind before pieces).map Spot.offset = offsetsFrom before.length pieces := by
  induction pieces generalizing before with
  | nil => rfl
  | cons piece pieces ih =>
    rw [spotsBehind, List.map_cons, ih, offsetsFrom, List.length_append]
    simp [Lexeme.spotBehind]

theorem exact_of_mem_spotsBehind (before : List Char) (pieces : List Piece) :
    ∀ spot ∈ spotsBehind before pieces, spot.Exact (before ++ pieces.flatMap Piece.chars) := by
  induction pieces generalizing before with
  | nil => simp [spotsBehind]
  | cons piece pieces ih =>
    intro spot member
    rcases List.mem_cons.mp member with rfl | later
    · have here := piece.lexeme.exact_spotBehind (before ++ piece.gap)
        (pieces.flatMap Piece.chars)
      simpa [Piece.chars] using here
    · have there := ih (before ++ piece.chars) spot later
      simpa using there

/-- Two neighbours are reported at one place just when the second of them leans left and directly
follows a single character that does not. -/
def Spot.NeighbourPlaces (first second : Spot) : Prop :=
  first.token.place = second.token.place ↔
    second.token.kind.LeansLeft ∧ first.token.kind ≠ .illegal ∧ first.token.text.length = 1 ∧
      second.offset = first.offset + 1

theorem Lexeme.Form.neighbourPlaces {first : Lexeme} (form : first.Form)
    (before gap : List Char) (second : Lexeme) :
    (first.spotBehind before).NeighbourPlaces
      (second.spotBehind (before ++ (first.chars ++ gap))) := by
  have positive := List.length_pos_of_ne_nil form.nonempty
  have nonempty : first.chars ++ gap ≠ [] := List.append_ne_nil_of_left_ne_nil form.nonempty gap
  have plain : ¬ first.kind.LeansLeft ↔ first.kind ≠ .illegal := by
    simp [Kind.LeansLeft, form.kind_ne_eof]
  have follows : '\n' ∉ first.chars ++ gap ∧ (first.chars ++ gap).length = 1 ↔
      first.chars.length = 1
        ∧ (before ++ (first.chars ++ gap)).length = before.length + 1 := by
    simp only [List.length_append]
    constructor
    · rintro ⟨_, single⟩
      omega
    · rintro ⟨single, next⟩
      have noGap : gap = [] := List.length_eq_zero_iff.mp (by omega)
      rw [noGap, List.append_nil]
      exact ⟨form.newline_not_mem, by simpa using single⟩
  refine (place_append before _ nonempty first second).2.trans ?_
  rw [← and_assoc, follows, plain]
  simp only [spotBehind, tokenBehind, String.length_ofList]
  tauto

theorem head?_spotsBehind (before : List Char) (pieces : List Piece) :
    (spotsBehind before pieces).head?
      = pieces.head?.map (fun piece => piece.lexeme.spotBehind (before ++ piece.gap)) := by
  cases pieces with
  | nil => rfl
  | cons piece pieces => rfl

def closedRow (pieces : List Piece) (last : List Char) : List Piece :=
  pieces ++ [⟨last, .ending⟩]

theorem isChain_spotsBehind (before : List Char) (pieces : List Piece) (last : List Char)
    (forms : ∀ piece ∈ pieces, piece.lexeme.Form) :
    (spotsBehind before (closedRow pieces last)).IsChain
      (fun first second => first.token.place ≤ second.token.place ∧
        first.NeighbourPlaces second) := by
  induction pieces generalizing before with
  | nil => exact List.isChain_singleton _
  | cons piece pieces ih =>
    obtain ⟨form, later⟩ := List.forall_mem_cons.mp forms
    refine List.isChain_cons.mpr ⟨?_, ih (before ++ piece.chars) later⟩
    intro second next
    rw [head?_spotsBehind] at next
    obtain ⟨nextPiece, _, rfl⟩ := Option.map_eq_some_iff.mp next
    have behind : before ++ piece.chars ++ nextPiece.gap
        = before ++ piece.gap ++ (piece.lexeme.chars ++ nextPiece.gap) := by
      simp [Piece.chars]
    have nonempty : piece.lexeme.chars ++ nextPiece.gap ≠ [] :=
      List.append_ne_nil_of_left_ne_nil form.nonempty _
    rw [behind]
    exact ⟨(Lexeme.place_append _ _ nonempty _ _).1, form.neighbourPlaces _ _ _⟩

theorem offsetsFrom_append (start : Nat) (pieces others : List Piece) :
    offsetsFrom start (pieces ++ others)
      = offsetsFrom start pieces
          ++ offsetsFrom (start + (pieces.flatMap Piece.chars).length) others := by
  induction pieces generalizing start with
  | nil => simp [offsetsFrom]
  | cons piece pieces ih => simp [offsetsFrom, ih, Nat.add_assoc]

namespace Decomposes

variable {source : List Char} {pieces : List Piece} {last : List Char}

theorem flatMap_closedRow (whole : Decomposes source pieces last) :
    (closedRow pieces last).flatMap Piece.chars = source := by
  rw [whole.spells, closedRow, List.flatMap_append, List.flatMap_singleton, Piece.chars,
    Lexeme.ending, List.append_nil]

theorem laidOut (whole : Decomposes source pieces last) :
    LaidOut source (spotsBehind [] (closedRow pieces last)) := by
  refine ⟨pieces, last, whole, ?_, ?_⟩
  · have lexemes := map_lexeme_tokensBehind [] (closedRow pieces last)
    rw [← map_token_spotsBehind, List.map_map] at lexemes
    exact lexemes.trans List.map_append
  · have size := congrArg List.length whole.spells
    rw [List.length_append] at size
    rw [map_offset_spotsBehind, closedRow, offsetsFrom_append, size, List.length_nil, Nat.zero_add]
    rfl

theorem tokenize_eq_closedRow {text : String} (whole : Decomposes text.toList pieces last) :
    tokenize text = tokensBehind [] (closedRow pieces last) := by
  rw [whole.tokenize_eq, closedRow, tokensBehind_append, tokensBehind, tokensBehind,
    List.nil_append, ← whole.spells]

end Decomposes

/-- Every token is reported where it stands; the places never go back, and two neighbours share one
only where a token that leans left directly follows a single character. -/
theorem token_positions_exact (source : String) :
    ∃ spots : List Spot,
      spots.map Spot.token = tokenize source ∧
        LaidOut source.toList spots ∧
        (∀ others, LaidOut source.toList others →
          others.map Spot.offset = spots.map Spot.offset) ∧
        (∀ spot ∈ spots, spot.Exact source.toList) ∧
        ((tokenize source).map Token.place).Pairwise (· ≤ ·) ∧
        spots.IsChain Spot.NeighbourPlaces := by
  obtain ⟨pieces, last, whole⟩ := exists_decomposition source.toList
  have chain := isChain_spotsBehind [] pieces last whole.forms
  have tokens : (spotsBehind [] (closedRow pieces last)).map Spot.token = tokenize source := by
    rw [map_token_spotsBehind, whole.tokenize_eq_closedRow]
  refine ⟨spotsBehind [] (closedRow pieces last), tokens, whole.laidOut, fun others other =>
    whole.laidOut.offsets_unique other, ?_, ?_, ?_⟩
  · intro spot member
    have here := exact_of_mem_spotsBehind [] _ spot member
    rwa [whole.flatMap_closedRow] at here
  · rw [← tokens, List.map_map]
    apply List.IsChain.pairwise
    exact (List.isChain_map _).mpr (chain.imp (fun _ _ both => both.1))
  · exact chain.imp (fun _ _ both => both.2)

end MonkeySyntax
