import MonkeySyntax.Proofs.Text.Quoted
import MonkeySyntax.Proofs.TokenStream.Placement

/-!
# Reports on illegal tokens

A single character can always be named, by itself or by its code point, so reading strictly fails
with a diagnostic or not at all.
-/

set_option autoImplicit false

namespace MonkeySyntax

theorem Lexeme.Form.stray_of_illegal {lexeme : Lexeme} (form : lexeme.Form)
    (illegal : lexeme.kind = .illegal) : ∃ c, Stray c ∧ lexeme.chars = [c] := by
  cases form with
  | word chars kind nonempty letters reads =>
    rcases reads with listed | ⟨name, _⟩
    · have others : ∀ entry ∈ keywords, entry.2 ≠ .illegal := by decide
      exact absurd illegal (others _ listed)
    · rw [name] at illegal
      contradiction
  | symbol c kind listed =>
    have others : ∀ entry ∈ symbols, entry.2 ≠ .illegal := by decide
    exact absurd illegal (others _ listed)
  | number | equal | notEqual | assign | bang => contradiction
  | stray c outside => exact ⟨c, outside, rfl⟩

theorem toNat_lt (c : Char) : c.toNat < 0x110000 := by
  rcases c.valid with low | ⟨_, high⟩
  · exact Nat.lt_trans low (by decide)
  · exact high

def Diagnostic.codePointDigits (c : Char) : String :=
  String.ofList (((Nat.toDigits 16 c.toNat).leftpad 4 '0').map Char.toUpper)

theorem Diagnostic.codePointName_eq (c : Char) :
    codePointName c = "U+" ++ codePointDigits c := by
  have last := toNat_lt c
  rw [codePointName, codePointDigits]
  by_cases basic : c.toNat < 0x10000
  · rw [if_pos basic, Text.hexDigits_eq_leftpad 4 _ (by decide) (by omega)]
  · have long : ¬ (Nat.toDigits 16 c.toNat).length ≤ 4 := by
      rw [Nat.length_toDigits_le_iff (by decide) (by decide)]
      omega
    have unpadded : (Nat.toDigits 16 c.toNat).leftpad 4 '0' = Nat.toDigits 16 c.toNat := by
      rw [List.leftpad, Nat.sub_eq_zero_of_le (by omega)]
      rfl
    rw [if_neg basic, unpadded]
    by_cases five : c.toNat < 0x100000
    · rw [if_pos five, Text.hexDigits_eq_toDigits 4 _ (by decide) (by omega) (by omega)]
    · rw [if_neg five, Text.hexDigits_eq_toDigits 5 _ (by decide) (by omega) (by omega)]

/-! ## The first character outside the alphabet -/

theorem stray_iff_not_mem_alphabet (c : Char) : Stray c ↔ c ∉ alphabet := by
  rw [mem_alphabet_iff]
  constructor
  · rintro ⟨letter, digit, layout, equal, bang, symbol⟩
    simp [letter, digit, layout, equal, bang, symbol]
  · intro outside
    simp only [not_or, not_exists, Bool.not_eq_true] at outside
    obtain ⟨letter, digit, layout, equal, bang, symbol⟩ := outside
    exact ⟨letter, digit, layout, equal, bang, symbol⟩

/-- A lexeme keeps to the alphabet unless it is illegal; then it is one character outside. -/
theorem Lexeme.Form.alphabetic_or_stray {lexeme : Lexeme} (form : lexeme.Form) :
    (lexeme.kind ≠ .illegal ∧ ∀ c ∈ lexeme.chars, c ∈ alphabet) ∨
      ∃ c, Stray c ∧ lexeme = ⟨.illegal, [c]⟩ := by
  by_cases illegal : lexeme.kind = .illegal
  · obtain ⟨c, outside, single⟩ := form.stray_of_illegal illegal
    refine Or.inr ⟨c, outside, ?_⟩
    cases lexeme
    simp_all
  · refine Or.inl ⟨illegal, fun c member => (mem_alphabet_iff c).mpr ?_⟩
    cases form with
    | word chars kind nonempty letters reads => exact Or.inl (letters c member)
    | number chars nonempty digits => exact Or.inr (Or.inl (digits c member))
    | equal | notEqual | assign | bang =>
      simp only [List.mem_cons, List.not_mem_nil, or_false] at member
      tauto
    | symbol d kind listed =>
      obtain rfl := List.mem_singleton.mp member
      exact Or.inr (Or.inr (Or.inr (Or.inr (Or.inr ⟨kind, listed⟩))))
    | stray => contradiction

/-- The text keeps to the alphabet up to the character `c`, which is outside. -/
structure FirstOutside (source before : List Char) (c : Char) : Prop where
  reached : before ++ [c] <+: source
  inside : ∀ d ∈ before, d ∈ alphabet
  outside : c ∉ alphabet

/-- Pieces without characters outside the alphabet make no illegal token; otherwise the first
illegal token is the first such character. -/
theorem find?_illegal_tokensBehind (before : List Char) (pieces : List Piece)
    (gaps : ∀ piece ∈ pieces, AllLayout piece.gap)
    (forms : ∀ piece ∈ pieces, piece.lexeme.Form) :
    ((∀ c ∈ pieces.flatMap Piece.chars, c ∈ alphabet) ∧
        (tokensBehind before pieces).find? (fun token => token.kind = .illegal) = none) ∨
      ∃ passed c, FirstOutside (pieces.flatMap Piece.chars) passed c ∧
        (tokensBehind before pieces).find? (fun token => token.kind = .illegal)
          = some (Lexeme.tokenBehind (before ++ passed) ⟨.illegal, [c]⟩) := by
  induction pieces generalizing before with
  | nil => exact Or.inl ⟨by simp, rfl⟩
  | cons piece pieces ih =>
    obtain ⟨layout, gaps⟩ := List.forall_mem_cons.mp gaps
    obtain ⟨form, forms⟩ := List.forall_mem_cons.mp forms
    have gap : ∀ c ∈ piece.gap, c ∈ alphabet := fun c member =>
      (mem_alphabet_iff c).mpr (Or.inr (Or.inr (Or.inl (layout c member))))
    rw [tokensBehind, List.flatMap_cons]
    rcases form.alphabetic_or_stray with ⟨legal, letters⟩ | ⟨c, stray, illegal⟩
    · have chars : ∀ c ∈ piece.chars, c ∈ alphabet :=
        fun c member => (List.mem_append.mp member).elim (gap c) (letters c)
      have passedOver : (piece.lexeme.tokenBehind (before ++ piece.gap)).kind ≠ .illegal := legal
      rw [List.find?_cons_of_neg (by simpa using passedOver)]
      rcases ih (before ++ piece.chars) gaps forms with
        ⟨all, none⟩ | ⟨passed, c, ⟨reached, inside, outside⟩, found⟩
      · refine Or.inl ⟨fun c member => ?_, none⟩
        exact (List.mem_append.mp member).elim (chars c) (all c)
      · refine Or.inr ⟨piece.chars ++ passed, c, ⟨?_, ?_, outside⟩, ?_⟩
        · rw [List.append_assoc]
          exact (List.prefix_append_right_inj _).mpr reached
        · intro d member
          exact (List.mem_append.mp member).elim (chars d) (inside d)
        · rw [found, List.append_assoc]
    · refine Or.inr ⟨piece.gap, c, ⟨?_, gap, (stray_iff_not_mem_alphabet c).mp stray⟩, ?_⟩
      · simp [Piece.chars, illegal]
      · rw [illegal]
        rfl

namespace Diagnostic

/-- What a report says that blames the character `c` behind `before` for being outside the
alphabet. -/
structure Blames (file : String) (before : List Char) (c : Char) (diagnostic : Diagnostic) :
    Prop where
  code : diagnostic.code? = some "L001"
  severity : diagnostic.severity = "error"
  message : diagnostic.message = s!"Invalid character: '{c}'"
  location : diagnostic.location
    = ⟨file, 1 + (before.count '\n' : Nat), (openLine before).length⟩
  printable : Text.isPrintable c = true →
    diagnostic.help? = some s!"The character '{c}' is not valid in Monkey source code."
  unprintable : Text.isPrintable c = false →
    diagnostic.help?
      = some s!"Non-printable character (Unicode: U+{codePointDigits c}) is not allowed."
  suggestions : diagnostic.suggestions = (absentOperators.lookup (String.singleton c)).toList

theorem exists_blames (file : String) (before : List Char) (c : Char) :
    ∃ diagnostic, invalidText (String.ofList [c])
        ((Lexeme.tokenBehind before ⟨.illegal, [c]⟩).location file) = .ok diagnostic ∧
      diagnostic.Blames file before c := by
  have place : (Lexeme.tokenBehind before ⟨.illegal, [c]⟩).location file
      = ⟨file, 1 + (before.count '\n' : Nat), (openLine before).length⟩ := by
    have line : ((1 + before.count '\n' : Nat) : Int) = 1 + (before.count '\n' : Nat) := by omega
    have column : Kind.illegal.reportedColumn (1 + (openLine before).length)
        = (openLine before).length := by
      rw [Kind.reportedColumn, if_pos (Or.inl rfl)]
      omega
    rw [Lexeme.tokenBehind, Token.location, line, column]
  have single : String.ofList [c] = String.singleton c := rfl
  rw [invalidText, invalidTextHelp, String.toList_ofList, List.all_cons, List.all_nil,
    Bool.and_true, place, single]
  by_cases printable : Text.isPrintable c = true
  · rw [if_pos printable]
    refine ⟨_, rfl, rfl, rfl, rfl, rfl, fun _ => rfl, ?_, rfl⟩
    intro unprintable
    rw [printable] at unprintable
    contradiction
  · rw [if_neg printable]
    refine ⟨_, rfl, rfl, rfl, rfl, rfl, fun shown => absurd shown printable, ?_, rfl⟩
    intro _
    have joined : "Non-printable character (Unicode: " ++ ("U+" ++ codePointDigits c)
        = "Non-printable character (Unicode: U+" ++ codePointDigits c := by
      rw [← String.append_assoc]
      rfl
    simp only [codePointName_eq, toString, joined]

end Diagnostic

theorem find?_illegal_tokenize (source : String) :
    ((∀ c ∈ source.toList, c ∈ alphabet) ∧
        (tokenize source).find? (fun token => token.kind = .illegal) = none) ∨
      ∃ passed c, FirstOutside source.toList passed c ∧
        (tokenize source).find? (fun token => token.kind = .illegal)
          = some (Lexeme.tokenBehind passed ⟨.illegal, [c]⟩) := by
  obtain ⟨pieces, last, whole⟩ := exists_decomposition source.toList
  have layout : ∀ c ∈ last, c ∈ alphabet := fun c member =>
    (mem_alphabet_iff c).mpr (Or.inr (Or.inr (Or.inl (whole.last_layout c member))))
  rw [whole.tokenize_eq, List.find?_append]
  rcases find?_illegal_tokensBehind [] pieces whole.gaps whole.forms with
    ⟨all, none⟩ | ⟨passed, c, ⟨reached, inside, outside⟩, found⟩
  · refine Or.inl ⟨?_, ?_⟩
    · intro c member
      rw [whole.spells] at member
      exact (List.mem_append.mp member).elim (all c) (layout c)
    · rw [none]
      rfl
  · refine Or.inr ⟨passed, c, ⟨?_, inside, outside⟩, ?_⟩
    · rw [whole.spells]
      exact reached.trans (List.prefix_append _ _)
    · rw [found]
      rfl

/-- Reading strictly differs from reading only where a text leaves the alphabet, and then the first
character that does is blamed. -/
theorem strict_reads_alphabet (file source : String) :
    (tokenizeAs true file source = tokenizeAs false file source ↔
        ∀ c ∈ source.toList, c ∈ alphabet) ∧
      ((∃ c ∈ source.toList, c ∉ alphabet) →
        ∃ before c diagnostic, FirstOutside source.toList before c ∧
          tokenizeAs true file source = .error (.illegal diagnostic) ∧
          diagnostic.Blames file before c) := by
  have strict : tokenizeAs true file source = withoutIllegal file (tokenize source) := rfl
  have plain : tokenizeAs false file source = .ok (tokenize source) := rfl
  rw [strict, plain, withoutIllegal]
  rcases find?_illegal_tokenize source with ⟨all, none⟩ | ⟨passed, c, first, found⟩
  · rw [none]
    refine ⟨iff_of_true rfl all, ?_⟩
    rintro ⟨c, member, outside⟩
    exact absurd (all c member) outside
  · have member : c ∈ source.toList := first.reached.mem (by simp)
    obtain ⟨diagnostic, named, blames⟩ := Diagnostic.exists_blames file passed c
    have text : (Lexeme.tokenBehind passed ⟨.illegal, [c]⟩).text = String.ofList [c] := rfl
    rw [found]
    simp only [text, named]
    refine ⟨iff_of_false (by simp) (fun all => first.outside (all c member)), ?_⟩
    intro _
    exact ⟨passed, c, diagnostic, first, rfl, blames⟩

end MonkeySyntax
