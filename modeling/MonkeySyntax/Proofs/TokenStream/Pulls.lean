import MonkeySyntax.Cursor.Session
import MonkeySyntax.Proofs.TokenStream.Placement

/-!
# Pulling tokens

Single requests and iterators share one cursor, and none reads a token that it does not hand out. 
`pulled_step` shows this for one pull and `pulled_after` for any row of pulls, so whoever pulls next
goes on where the last one stopped.
-/

set_option autoImplicit false

namespace MonkeySyntax.Cursor

inductive Pulling
  | next
  | drain
  /-- A new iterator, abandoned after so many tokens. -/
  | take (count : Nat)
deriving DecidableEq, Repr

def Pulling.step : Pulling → Step
  | .next => .next
  | .drain => .drain
  | .take count => .take count

def Reply.given : Reply → List Token
  | .token read => [read]
  | .tokens read => read
  | .done | .char _ | .text _ => []

def given (cursor : Cursor) (pulling : Pulling) : List Token :=
  (cursor.step pulling.step).1.given

def handedOut (cursor : Cursor) (pulls : List Pulling) : List Token :=
  (cursor.session (pulls.map Pulling.step)).flatMap (fun outcome => outcome.1.given)

def afterPulls (cursor : Cursor) (pulls : List Pulling) : Cursor :=
  cursor.after (pulls.map Pulling.step)

/-! ## Nothing is lost and nothing is given twice -/

/-- The tokens handed out are the next ones, and just these were read. -/
structure Pulled (cursor : Cursor) (tokens : List Token) (later : Cursor) : Prop where
  tokens_eq : tokens = (List.range tokens.length).map cursor.pull
  later_eq : later = cursor.skipTokens tokens.length

theorem pulled_nil (cursor : Cursor) : Pulled cursor [] cursor :=
  ⟨rfl, rfl⟩

theorem pulled_next (cursor : Cursor) : Pulled cursor [cursor.next.1] cursor.next.2 :=
  ⟨rfl, rfl⟩

theorem Pulled.append {first second third : Cursor} {early late : List Token}
    (start : Pulled first early second) (finish : Pulled second late third) :
    Pulled first (early ++ late) third := by
  obtain ⟨earlyTokens, rfl⟩ := start
  obtain ⟨lateTokens, rfl⟩ := finish
  have shifted : (first.skipTokens early.length).pull
      = fun count => first.pull (early.length + count) :=
    funext fun count => pull_skipTokens early.length count first
  constructor
  · rw [List.length_append, List.range_add, List.map_append, ← earlyTokens, List.map_map]
    rw [shifted] at lateTokens
    exact congrArg (early ++ ·) lateTokens
  · rw [List.length_append, skipTokens_add]

theorem pulled_tokens (cursor : Cursor) : Pulled cursor cursor.tokens.1 cursor.tokens.2 := by
  fun_induction tokens cursor with
  | case1 cursor step ended => exact pulled_next cursor
  | case2 cursor step more later ih => exact (pulled_next cursor).append ih

theorem pulled_take (count : Nat) (cursor : Cursor) :
    Pulled cursor (cursor.take count).1 (cursor.take count).2 := by
  fun_induction take count cursor with
  | case1 cursor => exact pulled_nil cursor
  | case2 count cursor step ended => exact pulled_next cursor
  | case3 count cursor step more later ih => exact (pulled_next cursor).append ih

theorem pulled_step (cursor : Cursor) (pulling : Pulling) :
    Pulled cursor (cursor.given pulling) (cursor.step pulling.step).2 := by
  cases pulling with
  | next => exact pulled_next cursor
  | drain => exact pulled_tokens cursor
  | take count => exact pulled_take count cursor

theorem pulled_after (cursor : Cursor) (pulls : List Pulling) :
    Pulled cursor (cursor.handedOut pulls) (cursor.afterPulls pulls) := by
  induction pulls generalizing cursor with
  | nil => exact pulled_nil cursor
  | cons pulling pulls ih => exact (pulled_step cursor pulling).append (ih _)

/-! ## Where iterators stop -/

/-- What new iterators do at a cursor. -/
structure IteratorLaw (cursor : Cursor) : Prop where
  drained : ∃ (front : List Token) (ending : Token),
    cursor.tokens.1 = front ++ [ending] ∧ ending.kind = .eof ∧
      ∀ token ∈ front, token.kind ≠ .eof
  abandoned : ∀ count, (cursor.take count).1 = cursor.tokens.1.take count
  /-- Either has read no more than it gives, and nothing at all if it gives nothing. -/
  consumed : ∀ pulling, (cursor.step pulling.step).2
    = cursor.skipTokens (cursor.given pulling).length
  exhausted : cursor.current? = none →
    ∃ ending, ending.kind = .eof ∧ cursor.tokens = ([ending], cursor)

theorem take_eq_take_tokens (count : Nat) (cursor : Cursor) :
    (cursor.take count).1 = cursor.tokens.1.take count := by
  fun_induction take count cursor with
  | case1 cursor => rw [List.take_zero]
  | case2 count cursor step ended =>
    have stops : cursor.tokens = ([step.1], step.2) := by rw [tokens, if_pos ended]
    rw [stops, List.take_succ_cons, List.take_nil]
  | case3 count cursor step more later ih =>
    have goesOn : cursor.tokens = (step.1 :: step.2.tokens.1, step.2.tokens.2) := by
      rw [tokens, if_neg more]
    rw [goesOn, List.take_succ_cons, ← ih]

theorem tokens_ends (cursor : Cursor) :
    ∃ (front : List Token) (ending : Token),
      cursor.tokens.1 = front ++ [ending] ∧ ending.kind = .eof ∧
        ∀ token ∈ front, token.kind ≠ .eof := by
  fun_induction tokens cursor with
  | case1 cursor step ended => exact ⟨[], step.1, rfl, ended, by simp⟩
  | case2 cursor step more later ih =>
    obtain ⟨front, ending, whole, ended, inside⟩ := ih
    refine ⟨step.1 :: front, ending, ?_, ended, List.forall_mem_cons.mpr ⟨more, inside⟩⟩
    rw [List.cons_append, ← whole]

theorem next_of_ended (cursor : Cursor) (ended : cursor.rest = []) :
    cursor.next.1.kind = .eof ∧ cursor.next.2 = cursor := by
  have skipped : cursor.skipLayout = cursor := advanceBy_of_ended cursor ended _
  have nothing : cursor.lexeme = .ending := by simp [lexeme, ended, Lexeme.ending]
  rw [next, skipped, nothing]
  exact ⟨rfl, rfl⟩

theorem iteratorLaw (cursor : Cursor) : IteratorLaw cursor where
  drained := tokens_ends cursor
  abandoned := fun count => take_eq_take_tokens count cursor
  consumed := fun pulling => (pulled_step cursor pulling).later_eq
  exhausted := by
    intro noMore
    obtain ⟨kind, stays⟩ := next_of_ended cursor (List.head?_eq_none_iff.mp noMore)
    refine ⟨cursor.next.1, kind, ?_⟩
    rw [tokens, if_pos kind, stays]

/-! ## At the end of the text -/

theorem rest_of_read_end (cursor : Cursor) (ended : cursor.next.1.kind = .eof) :
    cursor.next.2.rest = [] := by
  have ahead : cursor.skipLayout.rest = cursor.rest.dropWhile isLayout := rest_skipLayout cursor
  cases remaining : cursor.skipLayout.rest with
  | nil => rw [rest_next, remaining, List.drop_nil]
  | cons c rest =>
    rw [remaining] at ahead
    have visible : isLayout c = false :=
      head?_dropWhile_false isLayout cursor.rest c (by rw [← ahead]; rfl)
    obtain ⟨lexeme, tail, text, form, ends⟩ := Lexeme.exists_form c rest visible
    have taken := Lexeme.starting_of_form form tail ends c rest text
    have kind : cursor.next.1.kind = lexeme.kind := by
      rw [← taken]
      simp only [next, Cursor.lexeme, remaining]
    exact absurd (kind.symm.trans ended) form.kind_ne_eof

theorem rest_of_drained (cursor : Cursor) : cursor.tokens.2.rest = [] := by
  fun_induction tokens cursor with
  | case1 cursor step ended => exact rest_of_read_end cursor ended
  | case2 cursor step more later ih => exact ih

theorem rest_of_taken_end (count : Nat) (cursor : Cursor) (ending : Token)
    (given : ending ∈ (cursor.take count).1) (ended : ending.kind = .eof) :
    (cursor.take count).2.rest = [] := by
  fun_induction take count cursor with
  | case1 cursor => simp at given
  | case2 count cursor step stops => exact rest_of_read_end cursor stops
  | case3 count cursor step more later ih =>
    rcases List.mem_cons.mp given with rfl | behind
    · exact absurd ended more
    · exact ih behind

theorem rest_of_given_end (cursor : Cursor) (pulling : Pulling) (ending : Token)
    (given : ending ∈ cursor.given pulling) (ended : ending.kind = .eof) :
    (cursor.step pulling.step).2.rest = [] := by
  cases pulling with
  | next =>
    obtain rfl : ending = cursor.next.1 := List.mem_singleton.mp given
    exact rest_of_read_end cursor ended
  | drain => exact rest_of_drained cursor
  | take count => exact rest_of_taken_end count cursor ending given ended

theorem rest_of_reached {cursor later : Cursor} (reached : cursor.Reaches later)
    (ended : cursor.rest = []) : later.rest = [] := by
  obtain ⟨count, rfl⟩ := reached
  rw [advanceBy_of_ended cursor ended, ended]

theorem rest_of_handedOut_end (cursor : Cursor) (pulls : List Pulling) (ending : Token)
    (given : ending ∈ cursor.handedOut pulls) (ended : ending.kind = .eof) :
    (cursor.afterPulls pulls).rest = [] := by
  induction pulls generalizing cursor with
  | nil => simp [handedOut, session] at given
  | cons pulling pulls ih =>
    rcases List.mem_append.mp given with here | later
    · have behind := rest_of_given_end cursor pulling ending here ended
      exact rest_of_reached (reaches_after _ (pulls.map Pulling.step)) behind
    · exact ih _ later

/-- Single requests, iterators and abandoned iterators on one cursor, in any order, hand out the
tokens of the text one after the other and then its end again and again. -/
theorem pulls_follow_stream (source : String) (pulls : List Pulling) :
    (ofSource source).handedOut pulls
        = (List.range ((ofSource source).handedOut pulls).length).map
            (endless (tokenize source)) ∧
      (ofSource source).afterPulls pulls
        = (ofSource source).skipTokens ((ofSource source).handedOut pulls).length ∧
      IteratorLaw ((ofSource source).afterPulls pulls) ∧
      ∀ ending ∈ (ofSource source).handedOut pulls, ending.kind = .eof →
        ((ofSource source).afterPulls pulls).current? = none := by
  obtain ⟨tokens_eq, later_eq⟩ := pulled_after (ofSource source) pulls
  have stream : (ofSource source).pull = endless (tokenize source) :=
    funext (pull_ofSource source)
  rw [stream] at tokens_eq
  refine ⟨tokens_eq, later_eq, iteratorLaw _, ?_⟩
  intro ending given ended
  exact List.head?_eq_none_iff.mpr (rest_of_handedOut_end _ pulls ending given ended)

end MonkeySyntax.Cursor
