import MonkeySyntax.Text.Input
import Mathlib.Data.List.DropRight

/-!
# Texts by lines

A text is empty, or a last line that nothing ends, or a line in front of a text.  `lines_induction`
proves a property along these cases, which are those of `splitLines`.
-/

set_option autoImplicit false

namespace MonkeySyntax.Text

@[elab_as_elim]
theorem lines_induction {motive : List Char → Prop} (blank : motive [])
    (unended : ∀ body, body ≠ [] → '\n' ∉ body → motive body)
    (ended : ∀ body rest, '\n' ∉ body → motive rest → motive (body ++ '\n' :: rest))
    (text : List Char) : motive text := by
  induction size : text.length using Nat.strong_induction_on generalizing text with
  | _ bound ih =>
    by_cases present : '\n' ∈ text
    · obtain ⟨body, rest, rfl, single⟩ := List.eq_append_cons_of_mem present
      have shorter : rest.length < bound := by
        rw [List.length_append, List.length_cons] at size
        omega
      exact ended body rest single (ih rest.length shorter rest rfl)
    · by_cases nonempty : text = []
      · rw [nonempty]
        exact blank
      · exact unended text nonempty present

theorem splitLines_of_ended (body rest : List Char) (single : '\n' ∉ body) :
    splitLines (body ++ '\n' :: rest) = (body ++ ['\n']) :: splitLines rest := by
  induction body with
  | nil => rw [List.nil_append, splitLines, if_pos rfl, List.nil_append]
  | cons c body ih =>
    obtain ⟨other, later⟩ := List.ne_and_not_mem_of_not_mem_cons single
    rw [List.cons_append, splitLines, if_neg (Ne.symm other), ih later]
    rfl

theorem splitLines_of_unended (body : List Char) (nonempty : body ≠ []) (single : '\n' ∉ body) :
    splitLines body = [body] := by
  induction body with
  | nil => contradiction
  | cons c body ih =>
    obtain ⟨other, later⟩ := List.ne_and_not_mem_of_not_mem_cons single
    rw [splitLines, if_neg (Ne.symm other)]
    cases body with
    | nil => rfl
    | cons d body => rw [ih (by simp) later]

theorem exists_trimLineEnds (text : List Char) :
    ∃ ending, text = trimLineEnds text ++ ending ∧ ∀ c ∈ ending, isLineEnd c = true :=
  ⟨text.rtakeWhile isLineEnd, List.rdropWhile_append_rtakeWhile.symm,
    fun _ member => List.mem_rtakeWhile_imp member⟩

/-! ## Unified line ends -/

theorem unifyLineEnds_cons_of_ne (c : Char) (rest : List Char) (plain : c ≠ '\r') :
    unifyLineEnds (c :: rest) = c :: unifyLineEnds rest := by
  rw [unifyLineEnds, if_neg plain]
  intro _ same
  exact absurd same plain

theorem unifyLineEnds_lone (rest : List Char) (alone : rest.head? ≠ some '\n') :
    unifyLineEnds ('\r' :: rest) = '\n' :: unifyLineEnds rest := by
  rw [unifyLineEnds, if_pos rfl]
  rintro following _ rfl
  exact alone rfl

theorem unifyLineEnds_append_of_plain (plain rest : List Char) (absent : '\r' ∉ plain) :
    unifyLineEnds (plain ++ rest) = plain ++ unifyLineEnds rest := by
  induction plain with
  | nil => rfl
  | cons c plain ih =>
    obtain ⟨other, later⟩ := List.ne_and_not_mem_of_not_mem_cons absent
    rw [List.cons_append, unifyLineEnds_cons_of_ne c _ (Ne.symm other), ih later, List.cons_append]

theorem unifyLineEnds_append (front rest : List Char) (apart : rest.head? ≠ some '\n') :
    unifyLineEnds (front ++ rest) = unifyLineEnds front ++ unifyLineEnds rest := by
  fun_induction unifyLineEnds front with
  | case1 => rfl
  | case2 front ih => simp only [List.cons_append, unifyLineEnds, ih]
  | case3 c front notPair ih =>
    by_cases lone : c = '\r'
    · subst lone
      have alone : (front ++ rest).head? ≠ some '\n' := by
        cases front with
        | nil => exact apart
        | cons d front =>
          intro next
          have same : d = '\n' := Option.some.inj next
          exact notPair front rfl (by rw [same])
      rw [List.cons_append, unifyLineEnds_lone _ alone, ih, if_pos rfl, List.cons_append]
    · rw [List.cons_append, unifyLineEnds_cons_of_ne c _ lone, ih, if_neg lone, List.cons_append]

theorem mem_of_mem_unifyLineEnds (text : List Char) :
    ∀ c ∈ unifyLineEnds text, c ∈ text ∨ c = '\n' := by
  fun_induction unifyLineEnds text with
  | case1 => simp
  | case2 rest ih =>
    intro c member
    rcases List.mem_cons.mp member with here | later
    · exact Or.inr here
    · exact (ih c later).imp (fun inside => by simp [inside]) id
  | case3 d rest notPair ih =>
    intro c member
    rcases List.mem_cons.mp member with here | later
    · by_cases lone : d = '\r'
      · exact Or.inr (by rw [here, if_pos lone])
      · exact Or.inl (by simp [here, lone])
    · exact (ih c later).imp (List.mem_cons_of_mem d) id

theorem eq_nil_of_unifyLineEnds (text : List Char) (empty : unifyLineEnds text = []) :
    text = [] := by
  fun_induction unifyLineEnds text with
  | case1 => rfl
  | case2 => contradiction
  | case3 => contradiction

/-! ## Carriage returns in pairs -/

/-- A line feed directly follows every carriage return. -/
def ReturnsPaired (text : List Char) : Prop :=
  ∀ index, text[index]? = some '\r' → text[index + 1]? = some '\n'

theorem returnsPaired_iff (text : List Char) :
    (∀ index < text.length, text[index]? = some '\r' → text[index + 1]? = some '\n')
      ↔ ReturnsPaired text := by
  constructor
  · intro inside index here
    obtain ⟨bound, _⟩ := List.getElem?_eq_some_iff.mp here
    exact inside index bound here
  · intro paired index _ here
    exact paired index here

instance (text : List Char) : Decidable (ReturnsPaired text) :=
  decidable_of_iff _ (returnsPaired_iff text)

end MonkeySyntax.Text
