import MonkeySyntax.Parser
import MonkeySyntax.Proofs.Alphabet

/-!
# Cutting tokens into statements

`Fits` says which span stands before which tokens, and `Segments` cuts a list into fitting spans,
without mentioning the parser.  Every list of tokens is cut in exactly one way, because its first
token and those that follow decide the first span.
-/

set_option autoImplicit false

namespace MonkeySyntax

inductive Span
  /-- A header, the tokens passed over, and the semicolon unless the tokens run out. -/
  | letStatement (anchor name assign : Token) (body : List Token) (stop? : Option Token)
  | returnStatement (anchor : Token) (body : List Token) (stop? : Option Token)
  | nameless (anchor : Token)
  | unassigned (anchor name : Token)
  | unsupported (token : Token)
deriving DecidableEq, Repr

/-- The tokens passed over hold no semicolon, and end at one or at the end of the text. -/
structure PassedOver (body : List Token) (stop? : Option Token) (following : List Token) :
    Prop where
  body_kind : ∀ token ∈ body, token.kind ≠ .semicolon
  stop_kind : ∀ token ∈ stop?, token.kind = .semicolon
  open_end : stop? = none → following = []

namespace Span

def tokens : Span → List Token
  | letStatement anchor name assign body stop? =>
    anchor :: name :: assign :: (body ++ stop?.toList)
  | returnStatement anchor body stop? => anchor :: (body ++ stop?.toList)
  | nameless anchor => [anchor]
  | unassigned anchor name => [anchor, name]
  | unsupported token => [token]

/-- The span may stand before the tokens `following`, behind which the text ends. -/
def Fits (following : List Token) (ending : Token) : Span → Prop
  | letStatement anchor name assign body stop? =>
    anchor.kind = .letWord ∧ name.kind = .ident ∧ assign.kind = .assign ∧
      PassedOver body stop? following
  | returnStatement anchor body stop? =>
    anchor.kind = .returnWord ∧ PassedOver body stop? following
  | nameless anchor => anchor.kind = .letWord ∧ (following.headD ending).kind ≠ .ident
  | unassigned anchor name =>
    anchor.kind = .letWord ∧ name.kind = .ident ∧ (following.headD ending).kind ≠ .assign
  | unsupported token => token.kind ≠ .letWord ∧ token.kind ≠ .returnWord

end Span

/-- The list falls into spans, each of which fits before the ones that follow. -/
inductive Segments (ending : Token) : List Token → List Span → Prop
  | nil : Segments ending [] []
  | cons {span : Span} {spans : List Span} {following : List Token}
      (fits : span.Fits following ending) (later : Segments ending following spans) :
      Segments ending (span.tokens ++ following) (span :: spans)

/-! ## The first span -/

def passesOver (token : Token) : Bool :=
  token.kind ≠ .semicolon

namespace Span

/-- The only span that can start with `token` when the tokens `rest` come next. -/
def starting (token : Token) (rest : List Token) : Span :=
  if token.kind = .letWord then
    match rest with
    | [] => .nameless token
    | name :: rest =>
      if name.kind = .ident then
        match rest with
        | [] => .unassigned token name
        | assign :: rest =>
          if assign.kind = .assign then
            .letStatement token name assign (rest.takeWhile passesOver)
              (rest.dropWhile passesOver).head?
          else .unassigned token name
      else .nameless token
  else if token.kind = .returnWord then
    .returnStatement token (rest.takeWhile passesOver) (rest.dropWhile passesOver).head?
  else .unsupported token

end Span

namespace PassedOver

variable {body : List Token} {stop? : Option Token} {following : List Token}

theorem passesOver_body (passed : PassedOver body stop? following) :
    ∀ token ∈ body, passesOver token = true := by
  intro token member
  simpa [passesOver] using passed.body_kind token member

theorem passesOver_stop (passed : PassedOver body stop? following) :
    ∀ token ∈ (stop?.toList ++ following).head?, passesOver token = false := by
  intro token next
  cases ended : stop? with
  | none =>
    rw [ended, passed.open_end ended] at next
    simp at next
  | some semicolon =>
    rw [ended] at next
    have same : semicolon = token := by simpa using next
    simpa [passesOver, same] using passed.stop_kind semicolon (by rw [ended]; rfl)

theorem takeWhile_eq (passed : PassedOver body stop? following) :
    (body ++ (stop?.toList ++ following)).takeWhile passesOver = body :=
  takeWhile_append_of_stop passesOver body _ passed.passesOver_body passed.passesOver_stop

theorem dropWhile_eq (passed : PassedOver body stop? following) :
    (body ++ (stop?.toList ++ following)).dropWhile passesOver = stop?.toList ++ following :=
  dropWhile_append_of_stop passesOver body _ passed.passesOver_body passed.passesOver_stop

theorem head?_stop (passed : PassedOver body stop? following) :
    (stop?.toList ++ following).head? = stop? := by
  cases ended : stop? with
  | none => simp [passed.open_end ended]
  | some semicolon => simp

end PassedOver

theorem exists_passedOver (rest : List Token) :
    ∃ following, rest = ((rest.takeWhile passesOver)
        ++ (rest.dropWhile passesOver).head?.toList) ++ following ∧
      PassedOver (rest.takeWhile passesOver) (rest.dropWhile passesOver).head? following := by
  have split := List.takeWhile_append_dropWhile (p := passesOver) (l := rest)
  have body : ∀ token ∈ rest.takeWhile passesOver, token.kind ≠ .semicolon := by
    intro token member
    simpa [passesOver] using List.mem_takeWhile_imp member
  have stop := head?_dropWhile_false passesOver rest
  refine ⟨(rest.dropWhile passesOver).tail, ?_, body, ?_, ?_⟩
  · have rejoined : (rest.dropWhile passesOver).head?.toList ++ (rest.dropWhile passesOver).tail
        = rest.dropWhile passesOver := by
      cases rest.dropWhile passesOver with
      | nil => rfl
      | cons semicolon following => rfl
    rw [List.append_assoc, rejoined, split]
  · intro token next
    simpa [passesOver] using stop token next
  · intro ended
    rw [List.head?_eq_none_iff.mp ended]
    rfl

namespace Span

theorem starting_of_fits (span : Span) (following : List Token) (ending : Token)
    (fits : span.Fits following ending) (token : Token) (rest : List Token)
    (split : span.tokens ++ following = token :: rest) : starting token rest = span := by
  cases span with
  | letStatement anchor name assign body stop? =>
    obtain ⟨isLet, isName, isAssign, passed⟩ := fits
    obtain ⟨rfl, rfl⟩ := List.cons.inj split
    simp [starting, isLet, isName, isAssign, passed.takeWhile_eq, passed.dropWhile_eq,
      passed.head?_stop]
  | returnStatement anchor body stop? =>
    obtain ⟨isReturn, passed⟩ := fits
    obtain ⟨rfl, rfl⟩ := List.cons.inj split
    simp [starting, isReturn, passed.takeWhile_eq, passed.dropWhile_eq, passed.head?_stop]
  | nameless anchor =>
    obtain ⟨isLet, noName⟩ := fits
    obtain ⟨rfl, rfl⟩ := List.cons.inj split
    cases following with
    | nil => simp [starting, isLet]
    | cons next following =>
      have other : next.kind ≠ .ident := noName
      simp [starting, isLet, other]
  | unassigned anchor name =>
    obtain ⟨isLet, isName, noAssign⟩ := fits
    obtain ⟨rfl, rfl⟩ := List.cons.inj split
    cases following with
    | nil => simp [starting, isLet, isName]
    | cons next following =>
      have other : next.kind ≠ .assign := noAssign
      simp [starting, isLet, isName, other]
  | unsupported other =>
    obtain ⟨notLet, notReturn⟩ := fits
    obtain ⟨rfl, rfl⟩ := List.cons.inj split
    simp [starting, notLet, notReturn]

theorem exists_fits (ending : Token) (ended : ending.kind = .eof) (token : Token)
    (rest : List Token) :
    ∃ (span : Span) (following : List Token),
      token :: rest = span.tokens ++ following ∧ span.Fits following ending := by
  by_cases isLet : token.kind = .letWord
  · by_cases isName : (rest.headD ending).kind = .ident
    · obtain ⟨name, rest, rfl⟩ : ∃ name more, rest = name :: more := by
        cases rest with
        | nil => simp [ended] at isName
        | cons name more => exact ⟨name, more, rfl⟩
      by_cases isAssign : (rest.headD ending).kind = .assign
      · obtain ⟨assign, rest, rfl⟩ : ∃ assign more, rest = assign :: more := by
          cases rest with
          | nil => simp [ended] at isAssign
          | cons assign more => exact ⟨assign, more, rfl⟩
        obtain ⟨following, split, passed⟩ := exists_passedOver rest
        refine ⟨.letStatement token name assign _ _, following, ?_, isLet, isName, isAssign,
          passed⟩
        simp only [tokens, List.cons_append, List.cons.injEq, true_and]
        exact split
      · exact ⟨.unassigned token name, rest, rfl, isLet, isName, isAssign⟩
    · exact ⟨.nameless token, rest, rfl, isLet, isName⟩
  · by_cases isReturn : token.kind = .returnWord
    · obtain ⟨following, split, passed⟩ := exists_passedOver rest
      refine ⟨.returnStatement token _ _, following, ?_, isReturn, passed⟩
      simp only [tokens, List.cons_append, List.cons.injEq, true_and]
      exact split
    · exact ⟨.unsupported token, rest, rfl, isLet, isReturn⟩

theorem tokens_ne_nil (span : Span) : span.tokens ≠ [] := by
  cases span with
  | letStatement | returnStatement | nameless | unassigned | unsupported => simp [tokens]

end Span

/-! ## All spans -/

theorem Segments.unique {ending : Token} {list : List Token} {spans others : List Span}
    (segments : Segments ending list spans) (other : Segments ending list others) :
    spans = others := by
  induction segments generalizing others with
  | nil =>
    generalize whole : ([] : List Token) = list at other
    cases other with
    | nil => rfl
    | @cons span spans following fits later =>
      exact absurd (List.append_eq_nil_iff.mp whole.symm).1 span.tokens_ne_nil
  | @cons span spans following fits later ih =>
    generalize whole : span.tokens ++ following = list at other
    obtain ⟨token, more, starts⟩ := List.exists_cons_of_ne_nil span.tokens_ne_nil
    cases other with
    | nil => exact absurd (List.append_eq_nil_iff.mp whole).1 span.tokens_ne_nil
    | @cons otherSpan otherSpans otherFollowing otherFits otherLater =>
      have split : span.tokens ++ following = token :: (more ++ following) := by
        rw [starts, List.cons_append]
      have here := span.starting_of_fits following ending fits token _ split
      have there := otherSpan.starting_of_fits otherFollowing ending otherFits token _
        (whole.symm.trans split)
      have same : span = otherSpan := here.symm.trans there
      subst same
      rw [List.append_cancel_left whole] at ih
      rw [ih otherLater]

theorem exists_segments (ending : Token) (ended : ending.kind = .eof) (list : List Token) :
    ∃ spans, Segments ending list spans := by
  induction size : list.length using Nat.strong_induction_on generalizing list with
  | _ bound ih =>
    cases list with
    | nil => exact ⟨[], .nil⟩
    | cons token rest =>
      obtain ⟨span, following, split, fits⟩ := Span.exists_fits ending ended token rest
      have shorter : following.length < bound := by
        have positive := List.length_pos_of_ne_nil span.tokens_ne_nil
        rw [split, List.length_append] at size
        omega
      obtain ⟨spans, later⟩ := ih following.length shorter following rfl
      rw [split]
      exact ⟨span :: spans, .cons fits later⟩

end MonkeySyntax
