import MonkeySyntax.Interactive
import MonkeySyntax.Proofs.Text.Lines
import MonkeySyntax.Proofs.TokenStream.Concatenation
import MonkeySyntax.Proofs.TokenStream.Shift

/-!
# Line by line and all at once

No token reaches across a line feed, so the tokens of a line are those that the whole text has on
it, except that each line counts as the first one; and what is trimmed off the end of a line is
layout, which gives no tokens.
-/

set_option autoImplicit false

namespace MonkeySyntax

def visibleTokens (chars : List Char) : List Token :=
  (Cursor.ofChars chars).tokens.1.filter (fun token => token.kind ≠ .eof)

namespace Decomposes

variable {chars : List Char} {pieces : List Piece} {last : List Char}

theorem visibleTokens_eq (whole : Decomposes chars pieces last) :
    visibleTokens chars = tokensBehind [] pieces := by
  have inside := kind_ne_eof_of_mem whole []
  rw [visibleTokens, Cursor.ofChars_eq_behind, Cursor.tokens_behind [] chars pieces last whole,
    List.filter_append, List.filter_eq_self.mpr (by simpa using inside)]
  simp [Lexeme.tokenBehind, Lexeme.ending]

/-- A text that ends in layout has all its lexemes before a text put behind it. -/
theorem endsAtJoint_of_layout (whole : Decomposes chars pieces last) (c : Char)
    (final : chars.getLast? = some c) (layout : isLayout c = true) (next : List Char) :
    EndsAtJoint pieces last next := by
  rintro rfl piece closing
  obtain ⟨front, spells⟩ := whole.suffix_of_getLast? closing
  have form := whole.forms piece (List.mem_of_getLast? closing)
  rcases List.eq_nil_or_concat' piece.lexeme.chars with empty | ⟨early, d, concat⟩
  · exact absurd empty form.nonempty
  · have same : d = c := by
      rw [← spells, concat, ← List.append_assoc, List.getLast?_concat] at final
      exact Option.some.inj final
    have visible := form.isLayout_of_mem d (by simp [concat])
    rw [same, layout] at visible
    contradiction

end Decomposes

theorem visibleTokens_append_layout (chars layout : List Char) (all : AllLayout layout) :
    visibleTokens (chars ++ layout) = visibleTokens chars := by
  obtain ⟨pieces, last, whole⟩ := exists_decomposition chars
  have blank : Decomposes layout [] layout := (Decomposes.nil_iff _ _).mpr ⟨rfl, all⟩
  have joint : EndsAtJoint pieces last layout := by
    intro _ piece _ c next
    exact piece.lexeme.not_goesOnWith_of_isLayout c (all c (List.mem_of_mem_head? next))
  obtain ⟨joined, joinedLast, both, placed⟩ := whole.append blank joint
  rw [both.visibleTokens_eq, whole.visibleTokens_eq, placed, tokensBehind, List.append_nil]

theorem visibleTokens_append_newline (body : List Char) :
    visibleTokens (body ++ ['\n']) = visibleTokens body := by
  have layout : AllLayout ['\n'] := by
    intro c member
    rw [List.mem_singleton.mp member]
    decide
  exact visibleTokens_append_layout body ['\n'] layout

theorem visibleTokens_of_ended (body rest : List Char) :
    visibleTokens (body ++ '\n' :: rest)
      = visibleTokens body ++ (visibleTokens rest).map (Token.behind (body ++ ['\n'])) := by
  obtain ⟨pieces, last, left⟩ := exists_decomposition (body ++ ['\n'])
  obtain ⟨others, otherLast, right⟩ := exists_decomposition rest
  have joint := left.endsAtJoint_of_layout '\n' (by simp) (by decide) rest
  obtain ⟨joined, joinedLast, whole, placed⟩ := left.append right joint
  rw [List.append_assoc, List.singleton_append] at whole
  rw [whole.visibleTokens_eq, placed, List.nil_append, ← visibleTokens_append_newline body,
    left.visibleTokens_eq, right.visibleTokens_eq, ← tokensBehind_eq_map_behind]

theorem visibleTokens_trimLineEnds (line : List Char) :
    visibleTokens (Text.trimLineEnds line) = visibleTokens line := by
  obtain ⟨ending, split, ends⟩ := Text.exists_trimLineEnds line
  have layout : AllLayout ending := by
    intro c member
    have either : c = '\r' ∨ c = '\n' := by simpa [Text.isLineEnd] using ends c member
    rcases either with rfl | rfl
    · decide
    · decide
  have same := visibleTokens_append_layout (Text.trimLineEnds line) ending layout
  rw [← split] at same
  exact same.symm

/-! ## Lines of tokens -/

theorem line_of_mem_visibleTokens {chars : List Char} {token : Token}
    (member : token ∈ visibleTokens chars) :
    1 ≤ token.line ∧ ('\n' ∉ chars → token.line = 1) := by
  obtain ⟨pieces, last, whole⟩ := exists_decomposition chars
  rw [whole.visibleTokens_eq] at member
  obtain ⟨piece, _, more, inside, rfl⟩ := exists_of_mem_tokensBehind member
  rw [List.nil_append]
  constructor
  · simp only [Lexeme.tokenBehind]
    omega
  · intro single
    have absent : '\n' ∉ more := by
      intro newline
      apply single
      rw [whole.spells]
      have earlier := inside.subset (List.mem_append_left _ newline)
      exact List.mem_append_left _ earlier
    simp [Lexeme.tokenBehind, List.count_eq_zero.mpr absent]

/-- The token as it is reported when its line is the only one. -/
def Token.onFirstLine (token : Token) : Token :=
  { token with line := 1 }

theorem Token.onFirstLine_of_line (token : Token) (first : token.line = 1) :
    token.onFirstLine = token := by
  rw [onFirstLine, ← first]

/-- Behind a whole line a token stands one line further down, and in the same column. -/
theorem Token.behind_ended (body : List Char) (single : '\n' ∉ body) (token : Token) :
    token.behind (body ++ ['\n']) = { token with line := token.line + 1 } := by
  have nothing : openLine (body ++ ['\n']) = [] := by rw [openLine_concat, if_pos rfl]
  have lines : (body ++ ['\n']).count '\n' = 1 := by
    rw [List.count_append, List.count_eq_zero.mpr single]
    rfl
  simp [Token.behind, shiftedLine, shiftedColumn, nothing, lines]

def tokensOnLine (chars : List Char) (line : Int) : List Token :=
  (visibleTokens chars).filter (fun token => token.line = line)

theorem map_tokensOnLine_one (body : List Char) (single : '\n' ∉ body) :
    (tokensOnLine body 1).map Token.onFirstLine = visibleTokens body := by
  have first : ∀ token ∈ visibleTokens body, token.line = 1 :=
    fun token member => (line_of_mem_visibleTokens member).2 single
  have all : tokensOnLine body 1 = visibleTokens body :=
    List.filter_eq_self.mpr (fun token member => by simpa using first token member)
  rw [all]
  calc
    (visibleTokens body).map Token.onFirstLine = (visibleTokens body).map id := by
      apply List.map_congr_left
      intro token member
      exact token.onFirstLine_of_line (first token member)
    _ = visibleTokens body := List.map_id _

theorem tokensOnLine_one_of_ended (body rest : List Char) (single : '\n' ∉ body) :
    tokensOnLine (body ++ '\n' :: rest) 1 = tokensOnLine body 1 := by
  have none_later : ((visibleTokens rest).map (Token.behind (body ++ ['\n']))).filter
      (fun token => token.line = 1) = [] := by
    apply List.filter_eq_nil_iff.mpr
    intro token member
    obtain ⟨original, present, rfl⟩ := List.mem_map.mp member
    have positive := (line_of_mem_visibleTokens present).1
    rw [Token.behind_ended body single]
    simp only [decide_eq_true_eq]
    omega
  rw [tokensOnLine, visibleTokens_of_ended, List.filter_append, none_later, List.append_nil]
  rfl

theorem map_tokensOnLine_of_ended (body rest : List Char) (single : '\n' ∉ body) (line : Int)
    (positive : 0 < line) :
    (tokensOnLine (body ++ '\n' :: rest) (line + 1)).map Token.onFirstLine
      = (tokensOnLine rest line).map Token.onFirstLine := by
  have none_here : (visibleTokens body).filter (fun token => token.line = line + 1) = [] := by
    apply List.filter_eq_nil_iff.mpr
    intro token member
    have first := (line_of_mem_visibleTokens member).2 single
    simp only [decide_eq_true_eq]
    omega
  have sameLine : (fun token : Token => decide (token.line = line + 1))
        ∘ Token.behind (body ++ ['\n'])
      = fun token => decide (token.line = line) := by
    funext token
    rw [Function.comp_apply, Token.behind_ended body single]
    apply decide_eq_decide.mpr
    simp only
    omega
  have moved : Token.onFirstLine ∘ Token.behind (body ++ ['\n']) = Token.onFirstLine := by
    funext token
    rw [Function.comp_apply, Token.behind_ended body single]
    rfl
  rw [tokensOnLine, visibleTokens_of_ended, List.filter_append, none_here, List.nil_append,
    List.filter_map, sameLine, List.map_map, moved, tokensOnLine]

/-! ## All lines -/

/-- How many lines a text has; the last one counts without a line feed if it is not empty. -/
def lineCount (chars : List Char) : Nat :=
  chars.count '\n' + if openLine chars = [] then 0 else 1

theorem lineCount_of_unended (body : List Char) (nonempty : body ≠ []) (single : '\n' ∉ body) :
    lineCount body = 1 := by
  rw [lineCount, List.count_eq_zero.mpr single, openLine_eq_self body single, if_neg nonempty]

theorem lineCount_of_ended (body rest : List Char) (single : '\n' ∉ body) :
    lineCount (body ++ '\n' :: rest) = lineCount rest + 1 := by
  have lines : (body ++ '\n' :: rest).count '\n' = rest.count '\n' + 1 := by
    rw [List.count_append, List.count_eq_zero.mpr single, List.count_cons_self, Nat.zero_add]
  have last : openLine (body ++ '\n' :: rest) = openLine rest := by
    have nothing : openLine (body ++ ['\n']) = [] := by rw [openLine_concat, if_pos rfl]
    rw [← List.singleton_append, ← List.append_assoc, openLine_append, nothing, List.nil_append]
    split
    · rfl
    · next absent => exact (openLine_eq_self rest absent).symm
  rw [lineCount, lineCount, lines, last]
  omega

/-- Reading the lines one by one gives, line by line, the tokens of the whole text. -/
theorem visibleTokens_splitLines (chars : List Char) :
    (Text.splitLines chars).map visibleTokens
      = (List.range (lineCount chars)).map
          (fun index : Nat => (tokensOnLine chars (index + 1)).map Token.onFirstLine) := by
  induction chars using Text.lines_induction with
  | blank => rfl
  | unended body nonempty single =>
    rw [Text.splitLines_of_unended body nonempty single,
      lineCount_of_unended body nonempty single]
    have here := map_tokensOnLine_one body single
    simp [here]
  | ended body rest single ih =>
    rw [Text.splitLines_of_ended body rest single, lineCount_of_ended body rest single,
      List.range_succ_eq_map, List.map_cons, List.map_cons, List.map_map, ih,
      visibleTokens_append_newline]
    refine congrArg₂ List.cons ?_ (List.map_congr_left ?_)
    · have first := tokensOnLine_one_of_ended body rest single
      rw [Int.natCast_zero, Int.zero_add, first, map_tokensOnLine_one body single]
    · intro index _
      have below := map_tokensOnLine_of_ended body rest single (index + 1) (by omega)
      exact below.symm

/-! ## What is written -/

namespace Interactive

def listing (tokens : List Token) : String :=
  String.join (tokens.map (fun token => token.listing ++ "\n"))

theorem reply_eq_listing (line : List Char) : reply line = listing (visibleTokens line) := by
  rw [← visibleTokens_trimLineEnds]
  rfl

/-- For each line of the input a prompt is written and then the tokens that the whole input has on
this line, as if it were the first one; the last prompt is answered by the end of the input. -/
theorem transcript_by_lines (prompt input : String) :
    transcriptOf prompt input
      = String.join ((List.range (lineCount input.toList)).map (fun index : Nat =>
          prompt ++ listing
            (((tokenize input).filter
                (fun token => token.kind ≠ .eof ∧ token.line = (index : Int) + 1)).map
              Token.onFirstLine)))
        ++ prompt := by
  have replies : (Text.splitLines input.toList).map (fun line => prompt ++ reply line)
      = ((Text.splitLines input.toList).map visibleTokens).map
          (fun tokens => prompt ++ listing tokens) := by
    rw [List.map_map]
    apply List.map_congr_left
    intro line _
    rw [reply_eq_listing, Function.comp_apply]
  have onLine (line : Int) : tokensOnLine input.toList line
      = (tokenize input).filter (fun token => token.kind ≠ .eof ∧ token.line = line) := by
    rw [tokensOnLine, visibleTokens, List.filter_filter]
    apply List.filter_congr
    intro token _
    simp [Bool.and_comm]
  rw [transcriptOf, transcript, replies, visibleTokens_splitLines, List.map_map]
  simp only [Function.comp_def, onLine]

end Interactive

end MonkeySyntax
