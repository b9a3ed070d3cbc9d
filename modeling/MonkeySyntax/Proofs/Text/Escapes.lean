import MonkeySyntax.Proofs.Text.ToldApart

/-!
# Reading quoted text back

The delimiter in front of a quoted text tells which one was chosen, and behind it the characters are
read back one by one, each up to the end of its own escape.
-/

set_option autoImplicit false

namespace MonkeySyntax.Text

/-! ## Code points -/

def digitValue (digit : Char) : Nat :=
  (List.range 16).findIdx (fun value => value.digitChar = digit)

def codeOf (digits : List Char) : Nat :=
  digits.foldl (fun code digit => 16 * code + digitValue digit) 0

theorem digitValue_digitChar : ∀ value < 16, digitValue value.digitChar = value := by
  decide

theorem length_hexDigits (width value : Nat) : (hexDigits width value).length = width := by
  induction width generalizing value with
  | zero => rfl
  | succ width ih => simp [hexDigits, ih]

theorem codeOf_hexDigits (width value : Nat) :
    codeOf (hexDigits width value) = value % 16 ^ width := by
  induction width generalizing value with
  | zero => simp [hexDigits, codeOf, Nat.mod_one]
  | succ width ih =>
    have digit := digitValue_digitChar (value % 16) (Nat.mod_lt _ (by decide))
    have front := ih (value / 16)
    rw [codeOf] at front
    rw [hexDigits, codeOf, List.foldl_append, front, List.foldl_cons, List.foldl_nil, digit,
      Nat.pow_succ, Nat.mul_comm _ 16, Nat.mod_mul, Nat.add_comm]

/-- The character whose code point is written in the next `width` digits. -/
def readCode (width : Nat) (chars : List Char) : Char × List Char :=
  (Char.ofNat (codeOf (chars.take width)), chars.drop width)

theorem readCode_hexDigits {width : Nat} {c : Char} (fits : c.toNat < 16 ^ width)
    (rest : List Char) : readCode width (hexDigits width c.toNat ++ rest) = (c, rest) := by
  have long := length_hexDigits width c.toNat
  rw [readCode, List.take_left' long, List.drop_left' long, codeOf_hexDigits,
    Nat.mod_eq_of_lt fits, Char.ofNat_toNat]

/-! ## Characters -/

/-- The character that comes first in the middle of a quoted text, and what is left to read. -/
def readChar? : List Char → Option (Char × List Char)
  | '\\' :: 'n' :: rest => some ('\n', rest)
  | '\\' :: 'r' :: rest => some ('\r', rest)
  | '\\' :: 't' :: rest => some ('\t', rest)
  | '\\' :: 'x' :: rest => some (readCode 2 rest)
  | '\\' :: 'u' :: rest => some (readCode 4 rest)
  | '\\' :: 'U' :: rest => some (readCode 8 rest)
  | '\\' :: c :: rest => some (c, rest)
  | c :: rest => some (c, rest)
  | [] => none

theorem readChar?_of_plain {c : Char} (plain : c ≠ '\\') (rest : List Char) :
    readChar? (c :: rest) = some (c, rest) := by
  simp [readChar?, plain]

theorem delimiterOf_cases (text : List Char) :
    delimiterOf text = '\x27' ∨ delimiterOf text = '"' := by
  unfold delimiterOf
  split
  · exact Or.inr rfl
  · exact Or.inl rfl

section Escapes

variable {delimiter : Char} (either : delimiter = '\x27' ∨ delimiter = '"')

include either

theorem readChar?_escapeChar (c : Char) (rest : List Char) :
    readChar? (escapeChar delimiter c ++ rest) = some (c, rest) := by
  unfold escapeChar
  split_ifs with same newline carriage tab plain low basic
  · -- No delimiter is one of the letters that have a meaning behind a backslash.
    rcases same with rfl | rfl
    · rcases either with rfl | rfl
      · rfl
      · rfl
    · rfl
  · rw [newline]
    rfl
  · rw [carriage]
    rfl
  · rw [tab]
    rfl
  · exact readChar?_of_plain (fun slash => same (Or.inr slash)) rest
  · exact congrArg some (readCode_hexDigits low rest)
  · exact congrArg some (readCode_hexDigits basic rest)
  · have fits : c.toNat < 16 ^ 8 := c.val.toNat_lt
    exact congrArg some (readCode_hexDigits fits rest)

theorem toldApart_escapeChar (c d : Char) : ToldApart (escapeChar delimiter) c d := by
  intro rest more same
  have read := congrArg readChar? same
  rw [readChar?_escapeChar either, readChar?_escapeChar either] at read
  exact Prod.mk.inj (Option.some.inj read)

theorem escapeChar_ne_nil (c : Char) : escapeChar delimiter c ≠ [] := by
  intro nothing
  have read := readChar?_escapeChar either c []
  rw [nothing] at read
  contradiction

end Escapes

/-! ## Texts -/

theorem quotedChars_inj {text other : List Char} (same : quotedChars text = quotedChars other) :
    text = other := by
  obtain ⟨delimiter, body⟩ := List.cons.inj same
  rw [delimiter] at body
  have either := delimiterOf_cases other
  exact eq_of_flatMap_eq (escapeChar_ne_nil either)
    (fun c _ d _ => toldApart_escapeChar either c d) (List.append_cancel_right body)

theorem quoted_inj {text other : String} : quoted text = quoted other ↔ text = other := by
  refine ⟨fun same => ?_, congrArg quoted⟩
  exact String.toList_inj.mp (quotedChars_inj (String.ofList_injective same))

end MonkeySyntax.Text
