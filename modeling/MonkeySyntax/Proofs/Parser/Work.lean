import MonkeySyntax.Parser.Session
import MonkeySyntax.Proofs.Parser.Outcome

/-!
# What a parser can do

A parser slides its window, records a diagnostic, or passes over a token.  Every operation but
reading behind its window is a row of such movements (`works_step`), so what one movement keeps, all
operations keep (`Stable.after`).
-/

set_option autoImplicit false

namespace MonkeySyntax

def Event.read? : Event → Option Token
  | .read token => some token
  | .skipped _ | .reported _ => none

namespace Parser

def taken (parser : Parser) : List Token :=
  parser.events.toList.filterMap Event.read?

def place (parser : Parser) : Nat :=
  parser.taken.length - 2

def EndsInWindow (parser : Parser) : Prop :=
  ∃ earlier, parser.taken = earlier ++ [parser.current, parser.upcoming]

/-! ## Movements -/

theorem taken_advance (parser : Parser) :
    parser.advance.taken = parser.taken ++ [parser.cursor.next.1] := by
  simp [taken, advance, Event.read?]

theorem taken_report (parser : Parser) (diagnostic : Diagnostic) :
    (parser.report diagnostic).taken = parser.taken := by
  simp [taken, report, Event.read?]

theorem taken_skipUnsupported (parser : Parser) :
    parser.skipUnsupported.2.taken = parser.taken := by
  simp [taken, skipUnsupported, Event.read?]

theorem diagnostics_advance (parser : Parser) :
    parser.advance.diagnostics = parser.diagnostics :=
  rfl

theorem diagnostics_report (parser : Parser) (diagnostic : Diagnostic) :
    (parser.report diagnostic).diagnostics.toList = parser.diagnostics.toList ++ [diagnostic] := by
  simp [report]

/-- The later parser comes from the first one by movements. -/
inductive Works (parser : Parser) : Parser → Prop
  | start : Works parser parser
  | advance {later : Parser} (worked : Works parser later) : Works parser later.advance
  | report {later : Parser} (worked : Works parser later) (diagnostic : Diagnostic) :
      Works parser (later.report diagnostic)
  | skipUnsupported {later : Parser} (worked : Works parser later) :
      Works parser later.skipUnsupported.2

theorem Works.trans {first second third : Parser} (early : first.Works second)
    (late : second.Works third) : first.Works third := by
  induction late with
  | start => exact early
  | advance _ ih => exact ih.advance
  | report _ diagnostic ih => exact ih.report diagnostic
  | skipUnsupported _ ih => exact ih.skipUnsupported

/-! ## What all movements keep -/

/-- A property that survives each movement of a parser and each reading behind its window. -/
structure Stable (holds : Parser → Prop) : Prop where
  advance : ∀ {parser : Parser}, holds parser → holds parser.advance
  report : ∀ {parser : Parser} (diagnostic : Diagnostic), holds parser →
    holds (parser.report diagnostic)
  skipUnsupported : ∀ {parser : Parser}, holds parser → holds parser.skipUnsupported.2
  readBehind : ∀ {parser : Parser}, holds parser → holds parser.readBehind.2

theorem Stable.works {holds : Parser → Prop} (stable : Stable holds) {parser later : Parser}
    (worked : parser.Works later) (start : holds parser) : holds later := by
  induction worked with
  | start => exact start
  | advance _ ih => exact stable.advance ih
  | report _ diagnostic ih => exact stable.report diagnostic ih
  | skipUnsupported _ ih => exact stable.skipUnsupported ih

theorem stable_endsInWindow : Stable EndsInWindow where
  advance := by
    rintro parser ⟨earlier, taken⟩
    refine ⟨earlier ++ [parser.current], ?_⟩
    rw [taken_advance, taken, List.append_assoc, List.append_assoc]
    rfl
  report := by
    rintro parser diagnostic ⟨earlier, taken⟩
    exact ⟨earlier, (parser.taken_report diagnostic).trans taken⟩
  skipUnsupported := by
    rintro parser ⟨earlier, taken⟩
    exact ⟨earlier, parser.taken_skipUnsupported.trans taken⟩
  readBehind := id

structure Advanced (count : Nat) (parser later : Parser) : Prop where
  cursor : later.cursor = parser.cursor.skipTokens count
  taken : later.taken = parser.taken ++ (List.range count).map parser.cursor.pull
  recorded : parser.diagnostics.toList <+: later.diagnostics.toList

theorem Works.advanced {parser later : Parser} (worked : parser.Works later) :
    ∃ count, Advanced count parser later := by
  induction worked with
  | start => exact ⟨0, rfl, by simp, List.prefix_refl _⟩
  | @advance later _ ih =>
    obtain ⟨count, cursor, taken, recorded⟩ := ih
    refine ⟨count + 1, ?_, ?_, recorded⟩
    · rw [Cursor.skipTokens_add, ← cursor]
      rfl
    · rw [taken_advance, taken, cursor, List.range_succ, List.map_append, List.append_assoc]
      rfl
  | @report later _ diagnostic ih =>
    obtain ⟨count, cursor, taken, recorded⟩ := ih
    refine ⟨count, cursor, (later.taken_report diagnostic).trans taken, ?_⟩
    rw [diagnostics_report]
    exact recorded.trans (List.prefix_append _ _)
  | @skipUnsupported later _ ih =>
    obtain ⟨count, cursor, taken, recorded⟩ := ih
    exact ⟨count, cursor, later.taken_skipUnsupported.trans taken, recorded⟩

/-! ## Operations -/

theorem works_expect (parser : Parser) (kind : Kind) : parser.Works (parser.expect kind).2 := by
  unfold expect
  split
  · exact .advance .start
  · exact .report .start _

theorem works_skipToSemicolon (parser : Parser) : parser.Works parser.skipToSemicolon := by
  fun_induction skipToSemicolon parser with
  | case1 parser stops => exact .start
  | case2 parser goes ih => exact (Works.advance .start).trans ih

theorem works_parseLet (parser : Parser) : parser.Works parser.parseLet.2 := by
  have named := works_expect parser .ident
  have assigned := named.trans (works_expect _ .assign)
  unfold parseLet
  simp only
  split
  · split
    · exact assigned.trans (works_skipToSemicolon _)
    · exact assigned
  · exact named

theorem works_parseStatement (parser : Parser) : parser.Works parser.parseStatement.2 := by
  unfold parseStatement
  split
  · exact works_parseLet parser
  · split
    · exact works_skipToSemicolon parser
    · exact .skipUnsupported .start

theorem works_parseStatements (parser : Parser) : parser.Works parser.parseStatements.2 := by
  fun_induction parseStatements parser with
  | case1 parser ended => exact .start
  | case2 parser more parsed later ih =>
    exact (works_parseStatement parser).advance.trans ih

theorem works_step (parser : Parser) (operation : Step) (own : operation ≠ .readBehind) :
    parser.Works (parser.step operation).2 := by
  cases operation with
  | parseProgram => exact works_parseStatements parser
  | parseStatement => exact works_parseStatement parser
  | advance => exact .advance .start
  | skipToSemicolon => exact works_skipToSemicolon parser
  | expect kind => exact works_expect parser kind
  | readBehind => contradiction
  | currentIs | upcomingIs | messages | diagnostics | hasErrors | clearHandedOut => exact .start

namespace Stable

variable {holds : Parser → Prop}

theorem step (stable : Stable holds) {parser : Parser} (start : holds parser) (operation : Step) :
    holds (parser.step operation).2 := by
  by_cases behind : operation = .readBehind
  · subst behind
    exact stable.readBehind start
  · exact stable.works (works_step parser operation behind) start

theorem after (stable : Stable holds) {parser : Parser} (start : holds parser)
    (steps : List Step) : holds (parser.after steps) := by
  induction steps generalizing parser with
  | nil => exact start
  | cons operation steps ih => exact ih (stable.step start operation)

end Stable

/-! ## What one more step can do -/

/-- The expected kind was found: the window slides by one token and nothing is recorded. -/
structure Granted (parser : Parser) (kind : Kind) : Prop where
  found : parser.upcoming.kind = kind
  reply : (parser.step (.expect kind)).1 = .truth true
  place_eq : (parser.step (.expect kind)).2.place = parser.place + 1
  recorded : (parser.step (.expect kind)).2.diagnostics = parser.diagnostics

/-- Another kind was found: one diagnostic is recorded and nothing moves. -/
structure Refused (parser : Parser) (kind : Kind) : Prop where
  missing : parser.upcoming.kind ≠ kind
  reply : (parser.step (.expect kind)).1 = .truth false
  place_eq : (parser.step (.expect kind)).2.place = parser.place
  unmoved : SameWindow parser (parser.step (.expect kind)).2
  recorded : ∃ diagnostic, (parser.step (.expect kind)).2.diagnostics.toList
    = parser.diagnostics.toList ++ [diagnostic]

/-- What the next step keeps, whichever it is. -/
structure StepLaw (parser : Parser) : Prop where
  place_le : ∀ operation, parser.place ≤ (parser.step operation).2.place
  recorded : ∀ operation,
    parser.diagnostics.toList <+: (parser.step operation).2.diagnostics.toList
  expect : ∀ kind, Granted parser kind ∨ Refused parser kind
  statement : (parser.step .parseStatement).2.diagnostics.size ≤ parser.diagnostics.size + 1
  again : (parser.step .parseProgram).2.step .parseProgram
    = (.node (some (.program [])), (parser.step .parseProgram).2)

theorem place_add_two (parser : Parser) (window : parser.EndsInWindow) :
    parser.taken.length = parser.place + 2 := by
  obtain ⟨earlier, taken⟩ := window
  simp [place, taken]

theorem granted_or_refused (parser : Parser) (window : parser.EndsInWindow) (kind : Kind) :
    Granted parser kind ∨ Refused parser kind := by
  by_cases found : parser.upcoming.kind = kind
  · have granted : parser.step (.expect kind) = (.truth true, parser.advance) := by
      rw [step, expect_of_kind parser kind found]
    have size := parser.place_add_two window
    refine Or.inl ⟨found, by rw [granted], ?_, by rw [granted]; rfl⟩
    rw [granted, place, taken_advance, List.length_append, List.length_singleton]
    omega
  · have refused : parser.step (.expect kind)
        = (.truth false, parser.report (Fault.diagnostic parser.file ⟨kind, parser.upcoming⟩)) := by
      rw [step, expect_of_ne parser kind found]
    refine Or.inr ⟨found, by rw [refused], ?_, ?_, ?_⟩
    · rw [refused, place, taken_report, place]
    · rw [refused]
      exact sameWindow_report parser _
    · rw [refused]
      exact ⟨_, diagnostics_report parser _⟩

theorem size_parseLet_le (parser : Parser) :
    parser.parseLet.2.diagnostics.size ≤ parser.diagnostics.size + 1 := by
  by_cases named : parser.upcoming.kind = .ident
  · have first := expect_of_kind parser .ident named
    by_cases assigned : parser.advance.upcoming.kind = .assign
    · have second := expect_of_kind parser.advance .assign assigned
      have kept : parser.parseLet.2.diagnostics = parser.diagnostics := by
        simp [parseLet, first, second, skipToSemicolon_frame, diagnostics_advance]
      rw [kept]
      exact Nat.le_succ _
    · have second := expect_of_ne parser.advance .assign assigned
      simp [parseLet, first, second, report, diagnostics_advance]
  · have first := expect_of_ne parser .ident named
    simp [parseLet, first, report]

theorem size_parseStatement_le (parser : Parser) :
    parser.parseStatement.2.diagnostics.size ≤ parser.diagnostics.size + 1 := by
  unfold parseStatement
  split
  · exact size_parseLet_le parser
  · split
    · rw [parseReturn, (skipToSemicolon_frame parser).2]
      exact Nat.le_succ _
    · exact Nat.le_succ _

theorem current_parseStatements (parser : Parser) :
    parser.parseStatements.2.current.kind = .eof := by
  fun_induction parseStatements parser with
  | case1 parser ended => exact ended
  | case2 parser more parsed later ih => exact ih

theorem parseProgram_again (parser : Parser) :
    parser.parseProgram.2.parseProgram = (.program [], parser.parseProgram.2) := by
  have ended : parser.parseProgram.2.current.kind = .eof := current_parseStatements parser
  rw [parseProgram, parseStatements_of_ended ended]

theorem stepLaw_of_endsInWindow (parser : Parser) (window : parser.EndsInWindow) :
    StepLaw parser where
  place_le := by
    intro operation
    by_cases behind : operation = .readBehind
    · subst behind
      exact Nat.le_refl _
    · obtain ⟨count, _, taken, _⟩ := (works_step parser operation behind).advanced
      rw [place, place, taken, List.length_append]
      omega
  recorded := by
    intro operation
    by_cases behind : operation = .readBehind
    · subst behind
      exact List.prefix_refl _
    · obtain ⟨count, _, _, recorded⟩ := (works_step parser operation behind).advanced
      exact recorded
  expect := granted_or_refused parser window
  statement := size_parseStatement_le parser
  again := by
    have again := parser.parseProgram_again
    simp only [step, again]

end Parser

end MonkeySyntax
