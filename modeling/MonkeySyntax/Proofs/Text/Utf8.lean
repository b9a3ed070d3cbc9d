import MonkeySyntax.Text.Input

/-!
# Decoding what was encoded

The bytes of a character are its code point in digits to the base 64, most significant first; the
first of them also tells how many there are.  `lead?` narrows the range of the second byte where the
code point would be too small for its number of bytes, a surrogate, or too large, and no character
has such a one.
-/

set_option autoImplicit false

namespace MonkeySyntax.Text.Utf8

/-! ## Bytes -/

/-- What the first byte of two says, and likewise for three and four below. -/
theorem lead?_of_two (byte : Nat) (low : 0xC2 ≤ byte) (high : byte < 0xE0) :
    lead? byte = some (byte - 0xC0, [tail]) := by
  have notOne : ¬ byte < 0x80 := by omega
  have notMiddle : ¬ byte < 0xC2 := by omega
  rw [lead?, if_neg notOne, if_neg notMiddle, if_pos high]

theorem lead?_of_three (byte : Nat) (low : 0xE0 ≤ byte) (high : byte < 0xF0) :
    lead? byte = some (byte - 0xE0,
      [(if byte = 0xE0 then 0xA0 else 0x80, if byte = 0xED then 0x9F else 0xBF), tail]) := by
  have notOne : ¬ byte < 0x80 := by omega
  have notMiddle : ¬ byte < 0xC2 := by omega
  have notTwo : ¬ byte < 0xE0 := by omega
  rw [lead?, if_neg notOne, if_neg notMiddle, if_neg notTwo]
  by_cases shortest : byte = 0xE0
  · subst shortest
    rfl
  · by_cases surrogate : byte = 0xED
    · subst surrogate
      rfl
    · rw [if_neg shortest, if_neg surrogate, if_pos high, if_neg shortest, if_neg surrogate]
      rfl

theorem lead?_of_four (byte : Nat) (low : 0xF0 ≤ byte) (high : byte < 0xF5) :
    lead? byte = some (byte - 0xF0,
      [(if byte = 0xF0 then 0x90 else 0x80, if byte = 0xF4 then 0x8F else 0xBF), tail, tail]) := by
  have cases : byte = 0xF0 ∨ byte = 0xF1 ∨ byte = 0xF2 ∨ byte = 0xF3 ∨ byte = 0xF4 := by omega
  rcases cases with rfl | rfl | rfl | rfl | rfl
  · rfl
  · rfl
  · rfl
  · rfl
  · rfl

theorem toNat_ofNat (value : Nat) (small : value < 256) : (UInt8.ofNat value).toNat = value := by
  rw [UInt8.toNat_ofNat']
  omega

theorem follow_cons (value length low high digit : Nat) (ranges : List (Nat × Nat))
    (bytes : List UInt8) (small : digit < 64) (inside : low ≤ digit + 128 ∧ digit + 128 ≤ high) :
    follow value length ((low, high) :: ranges) (UInt8.ofNat (digit + 128) :: bytes)
      = follow (value * 64 + digit) (length + 1) ranges bytes := by
  have byte : (UInt8.ofNat (digit + 128)).toNat = digit + 128 := toNat_ofNat _ (by omega)
  rw [follow, byte, if_pos inside, Nat.add_sub_cancel]

/-! ## Characters -/

theorem front_of_one (value : Nat) (bytes : List UInt8) (small : value ≤ 0x7F) :
    front (UInt8.ofNat value) bytes = .char (Char.ofNat value) 1 bytes := by
  have one : value < 0x80 := by omega
  rw [front, toNat_ofNat value (by omega), lead?, if_pos one]
  rfl

theorem front_of_two (value : Nat) (bytes : List UInt8) (large : 0x7F < value)
    (small : value ≤ 0x7FF) :
    front (UInt8.ofNat (value / 64 % 32 + 192)) (UInt8.ofNat (value % 64 + 128) :: bytes)
      = .char (Char.ofNat value) 2 bytes := by
  have first := lead?_of_two (value / 64 % 32 + 192) (by omega) (by omega)
  have digits : (value / 64 % 32 + 192 - 0xC0) * 64 + value % 64 = value := by omega
  rw [front, toNat_ofNat _ (by omega), first]
  simp only
  rw [tail, follow_cons _ _ _ _ _ _ _ (by omega) (by omega), digits]
  rfl

theorem front_of_three (value : Nat) (bytes : List UInt8) (large : 0x7FF < value)
    (small : value ≤ 0xFFFF) (noSurrogate : value < 0xD800 ∨ 0xDFFF < value) :
    front (UInt8.ofNat (value / 4096 % 16 + 224))
        (UInt8.ofNat (value / 64 % 64 + 128) :: UInt8.ofNat (value % 64 + 128) :: bytes)
      = .char (Char.ofNat value) 3 bytes := by
  have first := lead?_of_three (value / 4096 % 16 + 224) (by omega) (by omega)
  have digits : ((value / 4096 % 16 + 224 - 0xE0) * 64 + value / 64 % 64) * 64 + value % 64
      = value := by omega
  have second : (if value / 4096 % 16 + 224 = 0xE0 then 0xA0 else 0x80) ≤ value / 64 % 64 + 128 ∧
      value / 64 % 64 + 128 ≤ (if value / 4096 % 16 + 224 = 0xED then 0x9F else 0xBF) := by
    constructor
    · split
      · omega
      · omega
    · split
      · omega
      · omega
  rw [front, toNat_ofNat _ (by omega), first]
  simp only
  rw [follow_cons _ _ _ _ _ _ _ (by omega) second, tail,
    follow_cons _ _ _ _ _ _ _ (by omega) (by omega), digits]
  rfl

theorem front_of_four (value : Nat) (bytes : List UInt8) (large : 0xFFFF < value)
    (small : value < 0x110000) :
    front (UInt8.ofNat (value / 262144 % 8 + 240))
        (UInt8.ofNat (value / 4096 % 64 + 128) :: UInt8.ofNat (value / 64 % 64 + 128)
          :: UInt8.ofNat (value % 64 + 128) :: bytes)
      = .char (Char.ofNat value) 4 bytes := by
  have first := lead?_of_four (value / 262144 % 8 + 240) (by omega) (by omega)
  have digits : (((value / 262144 % 8 + 240 - 0xF0) * 64 + value / 4096 % 64) * 64
      + value / 64 % 64) * 64 + value % 64 = value := by omega
  have second : (if value / 262144 % 8 + 240 = 0xF0 then 0x90 else 0x80)
        ≤ value / 4096 % 64 + 128 ∧
      value / 4096 % 64 + 128 ≤ (if value / 262144 % 8 + 240 = 0xF4 then 0x8F else 0xBF) := by
    constructor
    · split
      · omega
      · omega
    · split
      · omega
      · omega
  rw [front, toNat_ofNat _ (by omega), first]
  simp only
  rw [follow_cons _ _ _ _ _ _ _ (by omega) second, tail,
    follow_cons _ _ _ _ _ _ _ (by omega) (by omega),
    follow_cons _ _ _ _ _ _ _ (by omega) (by omega), digits]
  rfl

theorem front_of_char (c : Char) (rest : List UInt8) :
    ∃ (first : UInt8) (bytes : List UInt8) (length : Nat),
      String.utf8EncodeChar c ++ rest = first :: bytes ∧
        front first bytes = .char c length rest := by
  have code : Char.ofNat c.val.toNat = c := Char.ofNat_toNat c
  have valid : c.val.toNat < 0xD800 ∨ (0xDFFF < c.val.toNat ∧ c.val.toNat < 0x110000) := c.valid
  unfold String.utf8EncodeChar
  simp only
  split
  · next one =>
    refine ⟨_, rest, 1, rfl, ?_⟩
    rw [front_of_one _ _ one, code]
  · split
    · next large two =>
      refine ⟨_, _ :: rest, 2, rfl, ?_⟩
      rw [front_of_two _ _ (by omega) two, code]
    · split
      · next large three =>
        refine ⟨_, _ :: _ :: rest, 3, rfl, ?_⟩
        rw [front_of_three _ _ (by omega) three (by omega), code]
      · refine ⟨_, _ :: _ :: _ :: rest, 4, rfl, ?_⟩
        rw [front_of_four _ _ (by omega) (by omega), code]

/-! ## Texts -/

theorem decodeFrom_of_front (position : Nat) (first : UInt8) (bytes rest : List UInt8) (c : Char)
    (length : Nat) (read : front first bytes = .char c length rest) :
    decodeFrom position (first :: bytes)
      = ⟨c :: (decodeFrom (position + length) rest).chars,
          (decodeFrom (position + length) rest).fault?⟩ := by
  rw [decodeFrom]
  split
  · next fault =>
    rw [read] at fault
    contradiction
  · next found =>
    rw [read] at found
    obtain ⟨rfl, rfl, rfl⟩ := Front.char.inj found
    rfl

theorem decodeFrom_encode (position : Nat) (text : List Char) :
    decodeFrom position (encode text) = ⟨text, none⟩ := by
  induction text generalizing position with
  | nil => rw [encode, List.flatMap_nil, decodeFrom]
  | cons c text ih =>
    obtain ⟨first, bytes, length, spells, read⟩ := front_of_char c (encode text)
    have whole : encode (c :: text) = first :: bytes := spells
    rw [whole, decodeFrom_of_front position first bytes _ c length read, ih]

theorem decode_encode (text : List Char) : decode (encode text) = ⟨text, none⟩ :=
  decodeFrom_encode 0 text

end MonkeySyntax.Text.Utf8
