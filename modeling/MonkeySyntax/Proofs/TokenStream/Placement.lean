import MonkeySyntax.Proofs.Cursor.Position
import MonkeySyntax.Proofs.Lexeme.Decomposition

/-!
# The tokens of a decomposed text

The tokens that a cursor reads are the lexemes of the decomposition of the text ahead of it, each
placed behind everything that comes before it, and then the end again and again.
-/

set_option autoImplicit false

namespace MonkeySyntax

namespace Lexeme

def ending : Lexeme :=
  ⟨.eof, []⟩

/-- The token that the lexeme gives when it stands behind `before`. -/
def tokenBehind (before : List Char) (lexeme : Lexeme) : Token :=
  ⟨lexeme.kind, String.ofList lexeme.chars, (1 + before.count '\n' : Nat),
    lexeme.kind.reportedColumn (1 + (openLine before).length)⟩

theorem Form.kind_ne_eof {lexeme : Lexeme} (form : lexeme.Form) : lexeme.kind ≠ .eof := by
  cases form with
  | word chars kind nonempty letters reads =>
    rcases reads with listed | ⟨name, _⟩
    · have others : ∀ entry ∈ keywords, entry.2 ≠ .eof := by decide
      exact others _ listed
    · simp [name]
  | symbol c kind listed =>
    have others : ∀ entry ∈ symbols, entry.2 ≠ .eof := by decide
    exact others _ listed
  | number | equal | notEqual | assign | bang | stray => simp

end Lexeme

def Token.lexeme (token : Token) : Lexeme :=
  ⟨token.kind, token.text.toList⟩

theorem Lexeme.lexeme_tokenBehind (before : List Char) (lexeme : Lexeme) :
    (lexeme.tokenBehind before).lexeme = lexeme := by
  simp [Token.lexeme, tokenBehind]

def tokensBehind : List Char → List Piece → List Token
  | _, [] => []
  | before, piece :: pieces =>
    piece.lexeme.tokenBehind (before ++ piece.gap) :: tokensBehind (before ++ piece.chars) pieces

theorem map_lexeme_tokensBehind (before : List Char) (pieces : List Piece) :
    (tokensBehind before pieces).map Token.lexeme = pieces.map Piece.lexeme := by
  induction pieces generalizing before with
  | nil => rfl
  | cons piece pieces ih =>
    rw [tokensBehind, List.map_cons, List.map_cons, ih, Lexeme.lexeme_tokenBehind]

theorem tokensBehind_append (before : List Char) (pieces others : List Piece) :
    tokensBehind before (pieces ++ others)
      = tokensBehind before pieces
          ++ tokensBehind (before ++ pieces.flatMap Piece.chars) others := by
  induction pieces generalizing before with
  | nil => simp [tokensBehind]
  | cons piece pieces ih => simp [tokensBehind, ih]

theorem exists_of_mem_tokensBehind {before : List Char} {pieces : List Piece} {token : Token}
    (member : token ∈ tokensBehind before pieces) :
    ∃ piece ∈ pieces, ∃ more, more ++ piece.lexeme.chars <+: pieces.flatMap Piece.chars ∧
      token = piece.lexeme.tokenBehind (before ++ more) := by
  induction pieces generalizing before with
  | nil => simp [tokensBehind] at member
  | cons piece pieces ih =>
    rcases List.mem_cons.mp member with rfl | later
    · exact ⟨piece, List.mem_cons_self, piece.gap, List.prefix_append _ _, rfl⟩
    · obtain ⟨other, present, more, inside, rfl⟩ := ih later
      refine ⟨other, List.mem_cons_of_mem _ present, piece.chars ++ more, ?_, ?_⟩
      · rw [List.flatMap_cons, List.append_assoc]
        exact (List.prefix_append_right_inj piece.chars).mpr inside
      · rw [List.append_assoc]

theorem form_of_mem_tokensBehind {source : List Char} {pieces : List Piece} {last : List Char}
    (whole : Decomposes source pieces last) (before : List Char) :
    ∀ token ∈ tokensBehind before pieces, token.lexeme.Form := by
  intro token member
  have listed : token.lexeme ∈ pieces.map Piece.lexeme := by
    rw [← map_lexeme_tokensBehind before]
    exact List.mem_map_of_mem member
  obtain ⟨piece, present, same⟩ := List.mem_map.mp listed
  rw [← same]
  exact whole.forms piece present

theorem kind_ne_eof_of_mem {source : List Char} {pieces : List Piece} {last : List Char}
    (whole : Decomposes source pieces last) (before : List Char) :
    ∀ token ∈ tokensBehind before pieces, token.kind ≠ .eof := by
  intro token member
  exact (form_of_mem_tokensBehind whole before token member).kind_ne_eof

namespace Cursor

theorem next_behind_nil (before rest last : List Char) (whole : Decomposes rest [] last) :
    (behind before rest).next
      = (Lexeme.ending.tokenBehind (before ++ rest), behind (before ++ rest) []) := by
  have split := List.takeWhile_append_dropWhile (p := isLayout) (l := rest)
  rw [whole.dropWhile_nil, List.append_nil] at split
  have skipped : (behind before rest).skipLayout = behind (before ++ rest) [] := by
    rw [skipLayout_behind, whole.dropWhile_nil, split]
  rw [next, skipped]
  rfl

theorem next_behind_cons (before rest : List Char) (piece : Piece) (pieces : List Piece)
    (last : List Char) (whole : Decomposes rest (piece :: pieces) last) :
    ∃ tail, rest = piece.chars ++ tail ∧ Decomposes tail pieces last ∧
      (behind before rest).next
        = (piece.lexeme.tokenBehind (before ++ piece.gap),
            behind (before ++ piece.chars) tail) := by
  obtain ⟨c, more, tail, gap, found, taken, text, later⟩ := whole.first_piece
  have split := List.takeWhile_append_dropWhile (p := isLayout) (l := rest)
  have skipped : (behind before rest).skipLayout
      = behind (before ++ piece.gap) (piece.lexeme.chars ++ tail) := by
    rw [skipLayout_behind, gap, found, text]
  have here : (behind (before ++ piece.gap) (piece.lexeme.chars ++ tail)).lexeme
      = piece.lexeme := by
    rw [lexeme, behind, text]
    exact taken
  refine ⟨tail, ?_, later, ?_⟩
  · rw [← split, gap, found, ← text, Piece.chars, List.append_assoc]
  · rw [next, skipped]
    simp only [here, advanceBy_behind_append, Piece.chars, List.append_assoc]
    rfl

theorem tokens_behind (before rest : List Char) (pieces : List Piece) (last : List Char)
    (whole : Decomposes rest pieces last) :
    (behind before rest).tokens
      = (tokensBehind before pieces ++ [Lexeme.ending.tokenBehind (before ++ rest)],
          behind (before ++ rest) []) := by
  induction pieces generalizing before rest with
  | nil =>
    rw [tokens, next_behind_nil before rest last whole]
    rfl
  | cons piece pieces ih =>
    obtain ⟨tail, spells, later, read⟩ := next_behind_cons before rest piece pieces last whole
    have more : piece.lexeme.kind ≠ .eof := (whole.forms piece List.mem_cons_self).kind_ne_eof
    rw [tokens, read]
    simp only [Lexeme.tokenBehind, more, if_false]
    rw [ih (before ++ piece.chars) tail later, spells, List.append_assoc]
    rfl

/-- The token that is read after so many others. -/
def pull (cursor : Cursor) (count : Nat) : Token :=
  (cursor.skipTokens count).next.1

theorem pull_succ (cursor : Cursor) (count : Nat) :
    cursor.pull (count + 1) = cursor.next.2.pull count :=
  rfl

theorem skipTokens_add (first second : Nat) (cursor : Cursor) :
    cursor.skipTokens (first + second) = (cursor.skipTokens first).skipTokens second := by
  induction first generalizing cursor with
  | zero => rw [Nat.zero_add, skipTokens]
  | succ first ih => rw [Nat.succ_add, skipTokens, ih, skipTokens]

theorem pull_skipTokens (first second : Nat) (cursor : Cursor) :
    (cursor.skipTokens first).pull second = cursor.pull (first + second) := by
  rw [pull, pull, skipTokens_add]

theorem pull_behind (before rest : List Char) (pieces : List Piece) (last : List Char)
    (whole : Decomposes rest pieces last) (count : Nat) :
    (behind before rest).pull count
      = (tokensBehind before pieces).getD count (Lexeme.ending.tokenBehind (before ++ rest)) := by
  induction count generalizing before rest pieces last with
  | zero =>
    cases pieces with
    | nil => simp [pull, skipTokens, next_behind_nil before rest last whole, tokensBehind]
    | cons piece pieces =>
      obtain ⟨tail, _, _, read⟩ := next_behind_cons before rest piece pieces last whole
      simp [pull, skipTokens, read, tokensBehind]
  | succ count ih =>
    cases pieces with
    | nil =>
      have ended : Decomposes [] [] [] := (Decomposes.nil_iff [] []).mpr ⟨rfl, by simp [AllLayout]⟩
      rw [pull_succ, next_behind_nil before rest last whole, ih _ _ _ _ ended]
      simp [tokensBehind]
    | cons piece pieces =>
      obtain ⟨tail, spells, later, read⟩ := next_behind_cons before rest piece pieces last whole
      rw [pull_succ, read, ih _ _ _ _ later, tokensBehind, List.getD_cons_succ, spells,
        List.append_assoc]

end Cursor

theorem Decomposes.tokenize_eq {source : String} {pieces : List Piece} {last : List Char}
    (whole : Decomposes source.toList pieces last) :
    tokenize source
      = tokensBehind [] pieces ++ [Lexeme.ending.tokenBehind source.toList] :=
  congrArg Prod.fst (Cursor.tokens_behind [] source.toList pieces last whole)

theorem form_of_mem_tokenize {source : String} {token : Token} (member : token ∈ tokenize source)
    (inside : token.kind ≠ .eof) : token.lexeme.Form := by
  obtain ⟨pieces, last, whole⟩ := exists_decomposition source.toList
  rw [whole.tokenize_eq] at member
  rcases List.mem_append.mp member with present | ended
  · exact form_of_mem_tokensBehind whole [] token present
  · rw [List.mem_singleton.mp ended] at inside
    exact absurd rfl inside

/-- The tokens of a list, and then the last of them again and again. -/
def endless (tokens : List Token) (count : Nat) : Token :=
  tokens.getD count (tokens.getLastD default)

theorem endless_concat (tokens : List Token) (ending : Token) (count : Nat) :
    endless (tokens ++ [ending]) count = tokens.getD count ending := by
  rw [endless, List.getLastD_concat, List.getD_eq_getElem?_getD, List.getD_eq_getElem?_getD]
  rcases Nat.lt_or_ge count tokens.length with inside | outside
  · rw [List.getElem?_append_left inside]
  · rw [List.getElem?_append_right outside, List.getElem?_eq_none outside]
    cases count - tokens.length with
    | zero => rfl
    | succ more => rfl

/-- A text gives its tokens one by one, and then its end whenever it is asked again. -/
theorem Cursor.pull_ofSource (source : String) (count : Nat) :
    (ofSource source).pull count = endless (tokenize source) count := by
  obtain ⟨pieces, last, whole⟩ := exists_decomposition source.toList
  rw [whole.tokenize_eq, endless_concat]
  exact pull_behind [] source.toList pieces last whole count

/-- The tokens of a text are the lexemes of its only decomposition, followed by one end. -/
theorem tokenize_unique_decomposition (source file : String) :
    ∃ (tokens : List Token) (ending : Token),
      tokenizeAs false file source = .ok (tokens ++ [ending]) ∧
        ending.kind = .eof ∧ ending.text = "" ∧ (∀ token ∈ tokens, token.kind ≠ .eof) ∧
        ∃ (pieces : List Piece) (last : List Char),
          Decomposes source.toList pieces last ∧
            tokens.map Token.lexeme = pieces.map Piece.lexeme ∧
            ∀ (others : List Piece) (otherLast : List Char),
              Decomposes source.toList others otherLast → others = pieces ∧ otherLast = last := by
  obtain ⟨pieces, last, whole⟩ := exists_decomposition source.toList
  have read := Cursor.tokens_behind [] source.toList pieces last whole
  refine ⟨tokensBehind [] pieces, Lexeme.ending.tokenBehind source.toList, ?_, rfl, rfl,
    kind_ne_eof_of_mem whole [], pieces, last, whole, map_lexeme_tokensBehind [] pieces, ?_⟩
  · exact congrArg (fun outcome => Except.ok outcome.1) read
  · intro others otherLast other
    exact other.unique whole

end MonkeySyntax
