import Mathlib.Algebra.Group.Nat.Defs
import Mathlib.Tactic.SplitIfs
import MonkeySyntax.Text.Quoted

/-!
# Quoted text

All of a quoted text is printable, whatever is quoted.
-/

set_option autoImplicit false

namespace MonkeySyntax.Text

/-! ## Hexadecimal digits -/

theorem hexDigits_zero (width : Nat) : hexDigits width 0 = List.replicate width '0' := by
  induction width with
  | zero => rfl
  | succ width ih =>
    rw [hexDigits, Nat.zero_div, ih, List.replicate_succ']
    rfl

theorem hexDigits_eq_leftpad (width value : Nat) (positive : 0 < width)
    (fits : value < 16 ^ width) :
    hexDigits width value = (Nat.toDigits 16 value).leftpad width '0' := by
  induction width generalizing value with
  | zero => contradiction
  | succ width ih =>
    rcases Nat.lt_or_ge value 16 with single | more
    · have high : value / 16 = 0 := Nat.div_eq_of_lt single
      rw [hexDigits, high, hexDigits_zero, Nat.toDigits_of_lt_base single,
        Nat.mod_eq_of_lt single]
      simp [List.leftpad]
    · have high : value / 16 < 16 ^ width := by
        rw [Nat.pow_succ] at fits
        omega
      have wide : 0 < width := by
        apply Nat.pos_of_ne_zero
        rintro rfl
        omega
      rw [hexDigits, ih _ wide high, Nat.toDigits_of_base_le (by decide) more]
      simp [List.leftpad]

/-- A number that does not fit into fewer digits has no zeros before it. -/
theorem hexDigits_eq_toDigits (width value : Nat) (positive : 0 < width)
    (large : 16 ^ width ≤ value) (fits : value < 16 ^ (width + 1)) :
    hexDigits (width + 1) value = Nat.toDigits 16 value := by
  have long : ¬ (Nat.toDigits 16 value).length ≤ width := by
    rw [Nat.length_toDigits_le_iff (by decide) positive]
    omega
  have full : width + 1 - (Nat.toDigits 16 value).length = 0 := by omega
  rw [hexDigits_eq_leftpad _ _ (Nat.succ_pos _) fits, List.leftpad, full]
  rfl

/-! ## Printable text -/

def AllPrintable (text : String) : Prop :=
  text.toList.all isPrintable = true

instance (text : String) : Decidable (AllPrintable text) :=
  inferInstanceAs (Decidable (text.toList.all isPrintable = true))

theorem AllPrintable.append {text other : String} (shown : AllPrintable text)
    (others : AllPrintable other) : AllPrintable (text ++ other) := by
  rw [AllPrintable, String.toList_append, List.all_append, shown, others]
  rfl

theorem isPrintable_of_isDigit {c : Char} (digit : c.isDigit = true) : isPrintable c = true := by
  simp only [Char.isDigit, Bool.and_eq_true, decide_eq_true_eq, ge_iff_le,
    UInt32.le_iff_toNat_le] at digit
  apply isPrintable_of_ascii
  · exact Nat.le_trans (by decide) digit.1
  · exact Nat.lt_of_le_of_lt digit.2 (by decide)

theorem allPrintable_toString_nat (number : Nat) : AllPrintable (toString number) := by
  rw [AllPrintable, Nat.toString_eq_ofList_toDigits, String.toList_ofList, List.all_eq_true]
  intro c member
  exact isPrintable_of_isDigit (Nat.isDigit_of_mem_toDigits (by decide) (by decide) member)

theorem allPrintable_toString_int (number : Int) : AllPrintable (toString number) := by
  cases number with
  | ofNat number => exact allPrintable_toString_nat number
  | negSucc number =>
    have minus : AllPrintable "-" := by decide
    exact minus.append (allPrintable_toString_nat (number + 1))

theorem isPrintable_digitChar : ∀ digit < 16, isPrintable (Nat.digitChar digit) = true := by
  decide

theorem all_isPrintable_hexDigits (width value : Nat) :
    (hexDigits width value).all isPrintable = true := by
  induction width generalizing value with
  | zero => rfl
  | succ width ih =>
    have digit := isPrintable_digitChar (value % 16) (Nat.mod_lt _ (by decide))
    rw [hexDigits, List.all_append, ih, List.all_cons, List.all_nil, digit]
    rfl

theorem all_isPrintable_escapeChar {delimiter : Char} (shown : isPrintable delimiter = true)
    (c : Char) : (escapeChar delimiter c).all isPrintable = true := by
  have slash : isPrintable '\\' = true := by decide
  have code : ∀ (mark : Char) (width : Nat), isPrintable mark = true →
      ('\\' :: mark :: hexDigits width c.toNat).all isPrintable = true := by
    intro mark width marked
    rw [List.all_cons, List.all_cons, slash, marked, all_isPrintable_hexDigits]
    rfl
  unfold escapeChar
  split_ifs with same newline carriage tab plain low basic
  · rcases same with rfl | rfl
    · simp [slash, shown]
    · simp [slash]
  · decide
  · decide
  · decide
  · simpa using plain
  · exact code 'x' 2 (by decide)
  · exact code 'u' 4 (by decide)
  · exact code 'U' 8 (by decide)

theorem allPrintable_quoted (text : String) : AllPrintable (quoted text) := by
  have delimiter : isPrintable (delimiterOf text.toList) = true := by
    unfold delimiterOf
    split
    · decide
    · decide
  have escaped : (text.toList.flatMap (escapeChar (delimiterOf text.toList))).all isPrintable
      = true := by
    rw [List.all_flatMap, List.all_eq_true]
    exact fun c _ => all_isPrintable_escapeChar delimiter c
  rw [AllPrintable, quoted, String.toList_ofList, quotedChars, List.all_cons, List.all_append,
    escaped, List.all_cons, List.all_nil, delimiter]
  rfl

end MonkeySyntax.Text
