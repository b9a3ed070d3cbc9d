import MonkeySyntax.Proofs.Text.Quoted

/-!
# Texts that can be told apart

A field ends at the first character that it cannot contain, or starts behind the last one. 
`ToldApart` says that two items can be told from their texts whatever follows, and if this holds of
all items of two rows, then the rows can be told from their whole texts.
-/

set_option autoImplicit false

namespace MonkeySyntax.Text

/-! ## Fields -/

section Fields

variable {stop : Char} {front other rest more : List Char}

theorem append_cons_inj (absent : stop ∉ front) (absentOther : stop ∉ other)
    (same : front ++ stop :: rest = other ++ stop :: more) : front = other ∧ rest = more := by
  induction front generalizing other with
  | nil =>
    cases other with
    | nil => simpa using same
    | cons c other =>
      obtain ⟨rfl, _⟩ := List.cons.inj same
      exact absurd List.mem_cons_self absentOther
  | cons c front ih =>
    cases other with
    | nil =>
      obtain ⟨rfl, _⟩ := List.cons.inj same
      exact absurd List.mem_cons_self absent
    | cons d other =>
      obtain ⟨rfl, later⟩ := List.cons.inj same
      obtain ⟨rfl, behind⟩ := ih (List.not_mem_of_not_mem_cons absent)
        (List.not_mem_of_not_mem_cons absentOther) later
      exact ⟨rfl, behind⟩

theorem append_cons_inj_right (absent : stop ∉ rest) (absentMore : stop ∉ more)
    (same : front ++ stop :: rest = other ++ stop :: more) : front = other ∧ rest = more := by
  have mirrored : rest.reverse ++ stop :: front.reverse = more.reverse ++ stop :: other.reverse := by
    simpa using congrArg List.reverse same
  obtain ⟨behind, before⟩ := append_cons_inj (by simpa using absent) (by simpa using absentMore)
    mirrored
  exact ⟨List.reverse_inj.mp before, List.reverse_inj.mp behind⟩

end Fields

/-! ## Rows -/

section Rows

variable {Item : Type} {text : Item → List Char}

/-- Whatever is written behind, the text tells which of the two items it stands for and where it
ends. -/
def ToldApart (text : Item → List Char) (item other : Item) : Prop :=
  ∀ rest more, text item ++ rest = text other ++ more → item = other ∧ rest = more

theorem eq_of_flatMap_eq {items others : List Item}
    (visible : ∀ item, text item ≠ [])
    (apart : ∀ item ∈ items, ∀ other ∈ others, ToldApart text item other)
    (same : items.flatMap text = others.flatMap text) : items = others := by
  induction items generalizing others with
  | nil =>
    cases others with
    | nil => rfl
    | cons other others =>
      have nothing := (List.append_eq_nil_iff.mp same.symm).1
      exact absurd nothing (visible other)
  | cons item items ih =>
    cases others with
    | nil =>
      have nothing := (List.append_eq_nil_iff.mp same).1
      exact absurd nothing (visible item)
    | cons other others =>
      obtain ⟨rfl, behind⟩ := apart item List.mem_cons_self other List.mem_cons_self _ _ same
      have later := ih (fun item member other present =>
        apart item (List.mem_cons_of_mem _ member) other (List.mem_cons_of_mem _ present)) behind
      rw [later]

theorem eq_of_join_eq {written : Item → String} {items others : List Item}
    (visible : ∀ item, (written item).toList ≠ [])
    (apart : ∀ item ∈ items, ∀ other ∈ others,
      ToldApart (fun item => (written item).toList) item other)
    (same : String.join (items.map written) = String.join (others.map written)) :
    items = others := by
  rw [← String.toList_inj, String.toList_join, String.toList_join, List.flatMap_map,
    List.flatMap_map] at same
  exact eq_of_flatMap_eq visible apart same

end Rows

/-! ## Numbers -/

theorem not_mem_toString_nat {stop : Char} (noDigit : stop.isDigit = false) (number : Nat) :
    stop ∉ (toString number).toList := by
  intro member
  rw [Nat.toString_eq_ofList_toDigits, String.toList_ofList] at member
  have digit := Nat.isDigit_of_mem_toDigits (by decide) (by decide) member
  rw [noDigit] at digit
  contradiction

theorem toString_negSucc (number : Nat) :
    toString (Int.negSucc number) = "-" ++ toString (number + 1) :=
  rfl

theorem not_mem_toString_int {stop : Char} (noSign : stop ≠ '-') (noDigit : stop.isDigit = false)
    (number : Int) : stop ∉ (toString number).toList := by
  cases number with
  | ofNat count => exact not_mem_toString_nat noDigit count
  | negSucc count =>
    rw [toString_negSucc, String.toList_append]
    intro member
    rcases List.mem_append.mp member with sign | digit
    · exact noSign (List.mem_singleton.mp sign)
    · exact not_mem_toString_nat noDigit (count + 1) digit

theorem toString_nat_inj {number other : Nat} (same : toString number = toString other) :
    number = other := by
  have read := congrArg (fun text => Nat.ofDigitChars 10 text.toList 0) same
  simpa [Nat.toString_eq_ofList_toDigits] using read

theorem toString_ofNat_ne_negSucc (number other : Nat) :
    toString (Int.ofNat number) ≠ toString (Int.negSucc other) := by
  intro same
  have absent : '-' ∉ (toString (Int.ofNat number)).toList :=
    not_mem_toString_nat (by decide) number
  rw [same, toString_negSucc, String.toList_append] at absent
  exact absent (List.mem_append_left _ (by decide))

theorem toString_int_inj {number other : Int} (same : toString number = toString other) :
    number = other := by
  cases number with
  | ofNat number =>
    cases other with
    | ofNat other => exact congrArg Int.ofNat (toString_nat_inj same)
    | negSucc other => exact absurd same (toString_ofNat_ne_negSucc number other)
  | negSucc number =>
    cases other with
    | ofNat other => exact absurd same.symm (toString_ofNat_ne_negSucc other number)
    | negSucc other =>
      rw [toString_negSucc, toString_negSucc, String.append_right_inj] at same
      rw [Nat.succ.inj (toString_nat_inj same)]

end MonkeySyntax.Text
