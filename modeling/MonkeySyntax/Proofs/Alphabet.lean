import Mathlib.Data.List.Nodup
import Mathlib.Data.List.TakeWhile
import MonkeySyntax.Lexeme

/-!
# The classes of the alphabet

No character is in two of the classes that a token can start with, and none of them is layout.
-/

set_option autoImplicit false

namespace MonkeySyntax

/-! ## Tables -/

theorem lookup_eq_some_iff_mem {Key Value : Type} [DecidableEq Key] (table : List (Key × Value))
    (nodup : (table.map Prod.fst).Nodup) (key : Key) (value : Value) :
    table.lookup key = some value ↔ (key, value) ∈ table := by
  induction table with
  | nil => simp
  | cons entry table ih =>
    obtain ⟨first, found⟩ := entry
    rw [List.map_cons, List.nodup_cons] at nodup
    by_cases same : key = first
    · subst same
      have absent : (key, value) ∉ table :=
        fun member => nodup.1 (List.mem_map.mpr ⟨_, member, rfl⟩)
      simp [absent, eq_comm]
    · have different : (key == first) = false := by simpa using same
      simp [List.lookup_cons, different, same, ih nodup.2]

theorem symbolKind?_eq_some_iff (c : Char) (kind : Kind) :
    symbolKind? c = some kind ↔ (c, kind) ∈ symbols :=
  lookup_eq_some_iff_mem symbols (by decide) c kind

/-- What a word reads as: the entry of the table for it, or a name if there is none. -/
def ReadsAs (word : String) (kind : Kind) : Prop :=
  (word, kind) ∈ keywords ∨ (kind = .ident ∧ ∀ entry ∈ keywords, entry.1 ≠ word)

theorem readsAs_iff (word : String) (kind : Kind) : ReadsAs word kind ↔ wordKind word = kind := by
  have listed := lookup_eq_some_iff_mem keywords (by decide) word
  cases found : keywords.lookup word with
  | none =>
    have absent : ∀ entry ∈ keywords, entry.1 ≠ word := by
      intro entry member same
      have present := (listed entry.2).mpr (by rw [← same]; exact member)
      rw [found] at present
      contradiction
    have unlisted : (word, kind) ∉ keywords := fun member => absent _ member rfl
    rw [ReadsAs, wordKind, found, Option.getD_none]
    constructor
    · rintro (member | ⟨name, _⟩)
      · exact absurd member unlisted
      · exact name.symm
    · intro name
      exact Or.inr ⟨name.symm, absent⟩
  | some other =>
    have member := (listed other).mp found
    rw [ReadsAs, wordKind, found, Option.getD_some, ← listed kind, found, Option.some.injEq]
    constructor
    · rintro (same | ⟨_, absent⟩)
      · exact same
      · exact absurd rfl (absent _ member)
    · intro same
      exact Or.inl same

/-- A run of letters that is no reserved word. -/
structure IsName (word : String) : Prop where
  nonempty : word.toList ≠ []
  letters : ∀ c ∈ word.toList, isLetter c = true
  unreserved : ∀ entry ∈ keywords, entry.1 ≠ word

/-! ## Classes of characters -/

theorem isDigit_of_isLetter (c : Char) (letter : isLetter c = true) : isDigit c = false := by
  simp only [isLetter, Bool.or_eq_true, Bool.and_eq_true, decide_eq_true_eq, beq_iff_eq,
    Char.le_def, UInt32.le_iff_toNat_le] at letter
  simp only [isDigit, Bool.and_eq_false_iff, decide_eq_false_iff_not, Char.le_def,
    UInt32.le_iff_toNat_le]
  rcases letter with (lower | upper) | rfl
  · change 97 ≤ c.val.toNat ∧ c.val.toNat ≤ 122 at lower
    change ¬ 48 ≤ c.val.toNat ∨ ¬ c.val.toNat ≤ 57
    omega
  · change 65 ≤ c.val.toNat ∧ c.val.toNat ≤ 90 at upper
    change ¬ 48 ≤ c.val.toNat ∨ ¬ c.val.toNat ≤ 57
    omega
  · decide

theorem symbols_apart : ∀ entry ∈ symbols,
    isLetter entry.1 = false ∧ isDigit entry.1 = false ∧ isLayout entry.1 = false ∧
      entry.1 ≠ '=' ∧ entry.1 ≠ '!' := by
  decide

theorem isLayout_apart (c : Char) (layout : isLayout c = true) :
    isLetter c = false ∧ isDigit c = false ∧ c ≠ '=' ∧ c ≠ '!' := by
  have listed : c = ' ' ∨ c = '\t' ∨ c = '\n' ∨ c = '\r' := by
    simpa [isLayout, layoutChars] using layout
  rcases listed with rfl | rfl | rfl | rfl
  · decide
  · decide
  · decide
  · decide

/-- The classes of which a token takes whole runs. -/
def RunClass (member : Char → Bool) : Prop :=
  member = isLetter ∨ member = isDigit

theorem RunClass.letter : RunClass isLetter :=
  Or.inl rfl

theorem RunClass.digit : RunClass isDigit :=
  Or.inr rfl

theorem RunClass.eq_false {member : Char → Bool} (run : RunClass member) (c : Char)
    (letter : isLetter c = false) (digit : isDigit c = false) : member c = false := by
  rcases run with rfl | rfl
  · exact letter
  · exact digit

theorem RunClass.apart {member : Char → Bool} (run : RunClass member) (c : Char)
    (inside : member c = true) :
    isLayout c = false ∧ symbolKind? c = none ∧ c ≠ '=' ∧ c ≠ '!' := by
  have impossible : ¬ (isLetter c = false ∧ isDigit c = false) := by
    rintro ⟨letter, digit⟩
    rw [run.eq_false c letter digit] at inside
    contradiction
  refine ⟨?_, ?_, ?_, ?_⟩
  · apply Bool.eq_false_iff.mpr
    intro layout
    obtain ⟨letter, digit, _⟩ := isLayout_apart c layout
    exact impossible ⟨letter, digit⟩
  · cases found : symbolKind? c with
    | none => rfl
    | some kind =>
      obtain ⟨letter, digit, _⟩ := symbols_apart _ ((symbolKind?_eq_some_iff c kind).mp found)
      exact absurd ⟨letter, digit⟩ impossible
  · rintro rfl
    exact impossible (by decide)
  · rintro rfl
    exact impossible (by decide)

theorem sign_apart (c : Char) (sign : c = '=' ∨ c = '!') :
    isLetter c = false ∧ isDigit c = false := by
  rcases sign with rfl | rfl
  · decide
  · decide

/-! ## The characters of all classes -/

/-- The characters of which tokens and the layout between them are made. -/
def alphabet : List Char :=
  "abcdefghijklmnopqrstuvwxyzABCDEFGHIJKLMNOPQRSTUVWXYZ_0123456789".toList
    ++ " \t\n\r".toList ++ "=!+-*/<>,;()\x7b\x7d".toList

theorem toNat_lt_of_isLetter {c : Char} (letter : isLetter c = true) : c.toNat < 128 := by
  simp only [isLetter, Bool.or_eq_true, Bool.and_eq_true, decide_eq_true_eq, beq_iff_eq,
    Char.le_def, UInt32.le_iff_toNat_le] at letter
  rcases letter with (⟨_, high⟩ | ⟨_, high⟩) | rfl
  · exact Nat.lt_of_le_of_lt high (by decide)
  · exact Nat.lt_of_le_of_lt high (by decide)
  · decide

theorem toNat_lt_of_isDigit {c : Char} (digit : isDigit c = true) : c.toNat < 128 := by
  simp only [isDigit, Bool.and_eq_true, decide_eq_true_eq, Char.le_def,
    UInt32.le_iff_toNat_le] at digit
  exact Nat.lt_of_le_of_lt digit.2 (by decide)

/-- To compare a class of ASCII characters with the alphabet it is enough to look at 128 codes. -/
theorem mem_alphabet_of_ascii {member : Char → Bool}
    (listed : ∀ code < 128, member (Char.ofNat code) = true → Char.ofNat code ∈ alphabet)
    {c : Char} (ascii : c.toNat < 128) (inside : member c = true) : c ∈ alphabet := by
  have found := listed c.toNat ascii
  rw [Char.ofNat_toNat] at found
  exact found inside

theorem mem_alphabet_iff (c : Char) :
    c ∈ alphabet ↔ isLetter c = true ∨ isDigit c = true ∨ isLayout c = true ∨ c = '=' ∨ c = '!' ∨
      ∃ kind, (c, kind) ∈ symbols := by
  constructor
  · intro member
    have classes : alphabet.all (fun d => isLetter d || (isDigit d || (isLayout d || (d == '='
        || (d == '!' || (symbols.map Prod.fst).contains d))))) = true := by decide +kernel
    simpa using List.all_eq_true.mp classes c member
  · rintro (letter | digit | layout | rfl | rfl | ⟨kind, symbol⟩)
    · exact mem_alphabet_of_ascii (by decide +kernel) (toNat_lt_of_isLetter letter) letter
    · exact mem_alphabet_of_ascii (by decide +kernel) (toNat_lt_of_isDigit digit) digit
    · have listed : layoutChars.all alphabet.contains = true := by decide +kernel
      have present := List.all_eq_true.mp listed c (by simpa [isLayout] using layout)
      simpa using present
    · decide +kernel
    · decide +kernel
    · have listed : ∀ entry ∈ symbols, entry.1 ∈ alphabet := by decide +kernel
      exact listed _ symbol

/-! ## Runs

A run of a class stops where the items leave the class. -/

theorem takeWhile_append_of_stop {Element : Type} (member : Element → Bool)
    (run rest : List Element) (inside : ∀ item ∈ run, member item = true)
    (stop : ∀ item ∈ rest.head?, member item = false) :
    (run ++ rest).takeWhile member = run := by
  rw [List.takeWhile_append_of_pos inside]
  have nothing : rest.takeWhile member = [] := by
    cases rest with
    | nil => rfl
    | cons item rest => simp [stop item rfl]
  rw [nothing, List.append_nil]

theorem dropWhile_append_of_stop {Element : Type} (member : Element → Bool)
    (run rest : List Element) (inside : ∀ item ∈ run, member item = true)
    (stop : ∀ item ∈ rest.head?, member item = false) :
    (run ++ rest).dropWhile member = rest := by
  rw [List.dropWhile_append_of_pos inside]
  cases rest with
  | nil => rfl
  | cons item rest => simp [stop item rfl]

theorem head?_dropWhile_false {Element : Type} (member : Element → Bool) (items : List Element) :
    ∀ item ∈ (items.dropWhile member).head?, member item = false := by
  intro item next
  have first := List.head?_dropWhile_not member items
  rw [Option.mem_def.mp next] at first
  simpa using first

end MonkeySyntax
