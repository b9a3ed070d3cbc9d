import MonkeySyntax.Proofs.Parser.Draining

/-!
# The trace of a parse

The tokens are read in order and then the end again, and every span but a statement ends in one
remark, which is made when the token behind the span has been read.

The parser always holds one token more than it looks at, so the row of events is cut behind its last
reading: `Logged` tells what was recorded before that, and `Logged.turn` what a turn adds.
-/

set_option autoImplicit false

namespace MonkeySyntax

/-! ## Entries -/

inductive Remark
  | skipped (token : Token)
  | reported (fault : Fault)
deriving DecidableEq, Repr

namespace Remark

def event (file : String) : Remark → Event
  | .skipped token => .skipped token
  | .reported fault => .reported (fault.diagnostic file)

def skipped? : Remark → Option Token
  | .skipped token => some token
  | .reported _ => none

def fault? : Remark → Option Fault
  | .skipped _ => none
  | .reported fault => some fault

end Remark

/-- A token that was read, and what was remarked before the next one was read. -/
structure TraceEntry where
  token : Token
  remark? : Option Remark
deriving DecidableEq, Repr

namespace TraceEntry

def silent (token : Token) : TraceEntry :=
  ⟨token, none⟩

def events (file : String) (entry : TraceEntry) : List Event :=
  .read entry.token :: (entry.remark?.map (Remark.event file)).toList

/-- What is remarked at an entry is a fault of its own token, or that the token before it was passed
over. -/
def Follows (before entry : TraceEntry) : Prop :=
  ∀ remark ∈ entry.remark?,
    match remark with
    | .skipped token => token = before.token
    | .reported fault => fault.found = entry.token

theorem flatMap_events_silent (file : String) (tokens : List Token) :
    (tokens.map silent).flatMap (events file) = tokens.map Event.read := by
  rw [List.flatMap_map, List.map_eq_flatMap]
  rfl

end TraceEntry

namespace Span

def unsupported? : Span → Option Token
  | unsupported token => some token
  | letStatement _ _ _ _ _ | returnStatement _ _ _ | nameless _ | unassigned _ _ => none

def remark? (following : List Token) (ending : Token) : Span → Option Remark
  | unsupported token => some (.skipped token)
  | span => (span.fault? following ending).map .reported

/-- What is read while the parser is on the span, its first token being read already. -/
def entries (following : List Token) (ending : Token) (span : Span) : List TraceEntry :=
  span.tokens.tail.map .silent ++ [⟨following.headD ending, span.remark? following ending⟩]

end Span

def entriesOf (ending : Token) : List Span → List TraceEntry
  | [] => []
  | span :: spans => span.entries (spans.flatMap Span.tokens) ending ++ entriesOf ending spans

def extraEnds (spans : List Span) : Nat :=
  if endsOpen spans then 2 else 1

theorem extraEnds_eq (spans : List Span) : extraEnds spans = 1 + (endsOpen spans).toNat := by
  rw [extraEnds]
  cases endsOpen spans with
  | false => rfl
  | true => rfl

def traceOf (ending : Token) (spans : List Span) : List TraceEntry :=
  .silent ((spans.flatMap Span.tokens).headD ending)
    :: (entriesOf ending spans ++ List.replicate (extraEnds spans) (.silent ending))

/-! ## Recording -/

namespace Parser

/-- Before it read the last token, the parser had recorded the events `before`. -/
def Logged (parser : Parser) (before : List Event) : Prop :=
  parser.events.toList = before ++ [.read parser.upcoming]

namespace Logged

variable {parser : Parser} {before : List Event} {following : List Token} {ending : Token}

theorem advance (logged : parser.Logged before) :
    parser.advance.Logged (before ++ [.read parser.upcoming]) := by
  have pushed : parser.advance.events.toList
      = parser.events.toList ++ [.read parser.advance.upcoming] := by simp [Parser.advance]
  rw [Logged, pushed, logged]

theorem report_advance (logged : parser.Logged before) (diagnostic : Diagnostic) :
    (parser.report diagnostic).advance.Logged
      (before ++ [.read parser.upcoming, .reported diagnostic]) := by
  have pushed : (parser.report diagnostic).advance.events.toList
      = parser.events.toList ++ [.reported diagnostic]
          ++ [.read (parser.report diagnostic).advance.upcoming] := by
    simp [Parser.advance, report]
  rw [Logged, pushed, logged]
  simp

theorem skip_advance (logged : parser.Logged before) :
    parser.skipUnsupported.2.advance.Logged
      (before ++ [.read parser.upcoming, .skipped parser.current]) := by
  have pushed : parser.skipUnsupported.2.advance.events.toList
      = parser.events.toList ++ [.skipped parser.current]
          ++ [.read parser.skipUnsupported.2.advance.upcoming] := by
    simp [Parser.advance, skipUnsupported]
  rw [Logged, pushed, logged]
  simp

theorem advances {first : Token} {passed : List Token}
    (faces : parser.Faces (first :: (passed ++ following)) ending)
    (logged : parser.Logged before) :
    (∃ last, (Parser.advance^[passed.length] parser).Faces (last :: following) ending) ∧
      (Parser.advance^[passed.length] parser).Logged (before ++ passed.map .read) := by
  induction passed generalizing parser first before with
  | nil => exact ⟨⟨first, faces⟩, by simpa using logged⟩
  | cons token passed ih =>
    have next : parser.upcoming = token := faces.upcoming_eq
    have slid := logged.advance
    rw [next] at slid
    obtain ⟨reached, later⟩ := ih faces.advance slid
    refine ⟨reached, ?_⟩
    simpa using later

theorem passedOver {first : Token} {body : List Token} {stop? : Option Token}
    (faces : parser.Faces (first :: (body ++ stop?.toList ++ following)) ending)
    (ended : ending.kind = .eof) (other : first.kind ≠ .semicolon)
    (passed : PassedOver body stop? following)
    (inside : ∀ token ∈ first :: (body ++ stop?.toList ++ following), token.kind ≠ .eof)
    (logged : parser.Logged before) :
    parser.skipToSemicolon.advance.Logged
      (before ++ (body ++ stop?.toList ++ [following.headD ending]).map .read
        ++ List.replicate stop?.isNone.toNat (.read ending)) := by
  have skipped := faces.skipToSemicolon_passedOver ended other passed inside
  obtain ⟨⟨last, reached⟩, later⟩ := logged.advances faces
  have slid := later.advance
  have upcoming : (Parser.advance^[_] parser).upcoming = following.headD ending :=
    reached.upcoming_eq
  rw [upcoming] at slid
  cases stop? with
  | some semicolon =>
    have size : (body ++ [semicolon]).length = body.length + 1 := by simp
    rw [Option.toList_some, size, ← skipped] at slid
    simpa using slid
  | none =>
    -- Nothing ended the body, so the parser stands on the end before it is moved on once more.
    obtain rfl := passed.open_end rfl
    have again := slid.advance
    have ends : (Parser.advance^[_] parser).advance.upcoming = ending := reached.advance.upcoming_eq
    rw [ends, Option.toList_none, List.append_nil, ← Function.iterate_succ_apply' Parser.advance,
      ← skipped] at again
    simpa using again

/-- A turn records what belongs to its span; a statement that takes all the tokens reads the end
once more. -/
theorem turn {span : Span} (fits : span.Fits following ending)
    (faces : parser.Faces (span.tokens ++ following) ending) (ended : ending.kind = .eof)
    (inside : ∀ token ∈ span.tokens ++ following, token.kind ≠ .eof)
    (logged : parser.Logged before) :
    parser.turn.Logged
      (before ++ (span.entries following ending).flatMap (TraceEntry.events parser.file)
        ++ List.replicate span.runsOut.toNat (.read ending)) := by
  have next : parser.upcoming = (span.tokens ++ following).tail.headD ending := faces.upcoming_eq
  rw [Span.entries, List.flatMap_append, TraceEntry.flatMap_events_silent]
  cases span with
  | letStatement anchor name assign body stop? =>
    have read := faces.parseStatement_letStatement fits
    obtain ⟨_, _, isAssign, passed⟩ := fits
    have insideRest :=
      List.forall_mem_of_forall_mem_cons (List.forall_mem_of_forall_mem_cons inside)
    have assigned : parser.advance.upcoming = assign := faces.advance.upcoming_eq
    have slid := logged.advance.advance.passedOver faces.advance.advance ended
      (by simp [isAssign]) passed insideRest
    rw [Parser.turn, read]
    rw [next, assigned] at slid
    simpa [Span.tokens, Span.remark?, Span.fault?, Span.runsOut, TraceEntry.events] using slid
  | returnStatement anchor body stop? =>
    have read := faces.parseStatement_returnStatement fits
    obtain ⟨isReturn, passed⟩ := fits
    have slid := logged.passedOver faces ended (by simp [isReturn]) passed inside
    rw [Parser.turn, read]
    simpa [Span.tokens, Span.remark?, Span.fault?, Span.runsOut, TraceEntry.events] using slid
  | nameless anchor =>
    have slid := logged.report_advance
      (Fault.diagnostic parser.file ⟨.ident, following.headD ending⟩)
    rw [Parser.turn, faces.parseStatement_nameless fits]
    rw [next] at slid
    simpa [Span.tokens, Span.remark?, Span.fault?, Span.runsOut, TraceEntry.events, Remark.event]
      using slid
  | unassigned anchor name =>
    have behind : parser.advance.upcoming = following.headD ending := faces.advance.upcoming_eq
    have slid := logged.advance.report_advance
      (Fault.diagnostic parser.file ⟨.assign, following.headD ending⟩)
    rw [Parser.turn, faces.parseStatement_unassigned fits]
    rw [next, behind] at slid
    simpa [Span.tokens, Span.remark?, Span.fault?, Span.runsOut, TraceEntry.events, Remark.event]
      using slid
  | unsupported token =>
    have here : parser.current = token := faces.current_eq
    have slid := logged.skip_advance
    rw [Parser.turn, faces.parseStatement_unsupported fits]
    rw [next, here] at slid
    simpa [Span.tokens, Span.remark?, Span.runsOut, TraceEntry.events, Remark.event] using slid

theorem segments {list : List Token} {spans : List Span} (segments : Segments ending list spans)
    (ended : ending.kind = .eof) (inside : ∀ token ∈ list, token.kind ≠ .eof)
    (faces : parser.Faces list ending) (logged : parser.Logged before) :
    parser.parseStatements.2.events.toList
      = before ++ (entriesOf ending spans).flatMap (TraceEntry.events parser.file)
          ++ List.replicate (1 + (endsOpen spans).toNat) (.read ending) := by
  induction segments generalizing parser before with
  | nil =>
    have here : parser.current = ending := faces.current_eq
    have next : parser.upcoming = ending := faces.upcoming_eq
    rw [parseStatements_of_ended (by rw [here, ended]), logged, next]
    simp [entriesOf, endsOpen]
  | @cons span spans following fits later ih =>
    obtain ⟨token, more, starts⟩ := List.exists_cons_of_ne_nil span.tokens_ne_nil
    have here : parser.current = token := by rw [faces.current_eq, starts]; rfl
    have goesOn : parser.current.kind ≠ .eof := by
      rw [here]
      exact inside token (by simp [starts])
    have read := reads_span span fits faces ended inside
    have kept : parser.turn.file = parser.file := read.file_eq
    have rest := ih (fun token member => inside token (List.mem_append_right _ member)) read.faces
      (logged.turn fits faces ended inside)
    have onward : parser.parseStatements.2 = parser.turn.parseStatements.2 := by
      rw [parseStatements, if_neg goesOn]
      rfl
    have same : parser.parseStatement.2.advance = parser.turn := rfl
    rw [same, kept] at rest
    have total : List.replicate (1 + (span.runsOut.toNat + (endsOpen spans).toNat))
        (Event.read ending) = List.replicate span.runsOut.toNat (.read ending)
          ++ List.replicate (1 + (endsOpen spans).toNat) (.read ending) := by
      rw [List.replicate_append_replicate, Nat.add_left_comm]
    rw [onward, rest, entriesOf, ← later.tokens_eq, endsOpen_cons fits later, total]
    -- Only the last span can run out, so what it reads again stands at the end of the row.
    rcases Span.runsOut_or_last fits later with closed | last
    · simp [closed]
    · simp [last, entriesOf]

end Logged

end Parser

/-! ## Traces -/

theorem map_token_entriesOf (ending : Token) (spans : List Span) :
    (spans.flatMap Span.tokens).headD ending :: (entriesOf ending spans).map TraceEntry.token
      = spans.flatMap Span.tokens ++ [ending] := by
  induction spans with
  | nil => rfl
  | cons span spans ih =>
    obtain ⟨token, more, starts⟩ := List.exists_cons_of_ne_nil span.tokens_ne_nil
    rw [entriesOf, List.map_append, List.flatMap_cons, Span.entries, starts]
    simpa [Function.comp_def, TraceEntry.silent] using ih

theorem map_token_traceOf (ending : Token) (spans : List Span) :
    (traceOf ending spans).map TraceEntry.token
      = spans.flatMap Span.tokens ++ [ending] ++ List.replicate (extraEnds spans) ending := by
  rw [← map_token_entriesOf, traceOf]
  simp [TraceEntry.silent]

theorem length_entriesOf (ending : Token) (spans : List Span) :
    (entriesOf ending spans).length = (spans.flatMap Span.tokens).length := by
  have counted := congrArg List.length (map_token_entriesOf ending spans)
  simpa using counted

theorem drop_traceOf (ending : Token) (spans : List Span) :
    (traceOf ending spans).drop ((spans.flatMap Span.tokens).length + 1)
      = List.replicate (extraEnds spans) (.silent ending) := by
  rw [traceOf, List.drop_succ_cons, ← length_entriesOf ending spans, List.drop_left]

theorem TraceEntry.follows_silent (before : TraceEntry) (token : Token) :
    TraceEntry.Follows before (.silent token) := by
  intro remark made
  contradiction

theorem isChain_follows_silent (first last : TraceEntry) (tokens : List Token)
    (others : List TraceEntry)
    (follows : ∀ before, (tokens = [] → before = first) → TraceEntry.Follows before last)
    (later : List.IsChain TraceEntry.Follows (last :: others)) :
    List.IsChain TraceEntry.Follows
      (first :: (tokens.map TraceEntry.silent ++ last :: others)) := by
  induction tokens generalizing first with
  | nil => exact List.isChain_cons_cons.mpr ⟨follows first (fun _ => rfl), later⟩
  | cons token tokens ih =>
    refine List.isChain_cons_cons.mpr ⟨TraceEntry.follows_silent first token, ?_⟩
    exact ih (TraceEntry.silent token) (fun before same => follows before (by simp))

theorem isChain_entriesOf (ending : Token) (spans : List Span) (others : List TraceEntry)
    (first : TraceEntry) (starts : first.token = (spans.flatMap Span.tokens).headD ending)
    (later : ∀ entry, List.IsChain TraceEntry.Follows (entry :: others)) :
    List.IsChain TraceEntry.Follows (first :: (entriesOf ending spans ++ others)) := by
  induction spans generalizing first with
  | nil => exact later first
  | cons span spans ih =>
    have rest := ih ⟨(spans.flatMap Span.tokens).headD ending,
      span.remark? (spans.flatMap Span.tokens) ending⟩ rfl
    rw [entriesOf, Span.entries]
    simp only [List.append_assoc, List.singleton_append]
    refine isChain_follows_silent first _ _ _ ?_ rest
    intro before same remark made
    cases span with
    | letStatement | returnStatement => contradiction
    | nameless anchor =>
      obtain rfl := Option.some.inj made
      rfl
    | unassigned anchor name =>
      obtain rfl := Option.some.inj made
      rfl
    | unsupported token =>
      obtain rfl := Option.some.inj made
      rw [same rfl, starts]
      rfl

theorem isChain_traceOf (ending : Token) (spans : List Span) :
    List.IsChain TraceEntry.Follows (traceOf ending spans) := by
  apply isChain_entriesOf ending spans _ _ rfl
  intro entry
  induction extraEnds spans generalizing entry with
  | zero => exact List.isChain_singleton entry
  | succ count ih =>
    rw [List.replicate_succ]
    exact List.isChain_cons_cons.mpr ⟨entry.follows_silent ending, ih _⟩

theorem filterMap_remark?_silent (tokens : List Token) :
    (tokens.map TraceEntry.silent).filterMap TraceEntry.remark? = [] := by
  rw [List.filterMap_map]
  exact List.filterMap_eq_nil_iff.mpr (fun _ _ => rfl)

theorem Span.filterMap_remark?_entries (following : List Token) (ending : Token) (span : Span) :
    (span.entries following ending).filterMap TraceEntry.remark?
      = (span.remark? following ending).toList := by
  rw [entries, List.filterMap_append, filterMap_remark?_silent]
  cases span.remark? following ending <;> rfl

def remarksOf (ending : Token) : List Span → List Remark
  | [] => []
  | span :: spans =>
    (span.remark? (spans.flatMap Span.tokens) ending).toList ++ remarksOf ending spans

theorem filterMap_remark?_traceOf (ending : Token) (spans : List Span) :
    (traceOf ending spans).filterMap TraceEntry.remark? = remarksOf ending spans := by
  have inner : (entriesOf ending spans).filterMap TraceEntry.remark? = remarksOf ending spans := by
    induction spans with
    | nil => rfl
    | cons span spans ih =>
      rw [entriesOf, List.filterMap_append, span.filterMap_remark?_entries, ih, remarksOf]
  rw [traceOf, ← List.map_replicate, List.filterMap_cons_none rfl, List.filterMap_append, inner,
    filterMap_remark?_silent, List.append_nil]

theorem filterMap_skipped?_remarksOf (ending : Token) (spans : List Span) :
    (remarksOf ending spans).filterMap Remark.skipped? = spans.filterMap Span.unsupported? := by
  induction spans with
  | nil => rfl
  | cons span spans ih =>
    rw [remarksOf, List.filterMap_append, ih]
    cases span with
    | letStatement | returnStatement | nameless | unassigned | unsupported => rfl

theorem filterMap_fault?_remarksOf (ending : Token) (spans : List Span) :
    (remarksOf ending spans).filterMap Remark.fault? = faults ending spans := by
  induction spans with
  | nil => rfl
  | cons span spans ih =>
    rw [remarksOf, List.filterMap_append, ih, faults]
    cases span with
    | letStatement | returnStatement | nameless | unassigned | unsupported => rfl

/-! ## Texts -/

theorem exists_trace (source file : String) :
    ∃ (tokens : List Token) (ending : Token) (spans : List Span),
      tokenize source = tokens ++ [ending] ∧ ending.kind = .eof ∧
        (∀ token ∈ tokens, token.kind ≠ .eof) ∧ Segments ending tokens spans ∧
        (Parser.ofSource source file).parseProgram.2.events.toList
          = (traceOf ending spans).flatMap (TraceEntry.events file) ∧
        (Parser.ofSource source file).parseProgram.2.diagnostics.toList
          = (faults ending spans).map (Fault.diagnostic file) := by
  obtain ⟨pieces, last, whole⟩ := exists_decomposition source.toList
  obtain ⟨spans, segments⟩ :=
    exists_segments (Lexeme.ending.tokenBehind source.toList) rfl (tokensBehind [] pieces)
  have faces := Parser.faces_ofCursor [] source.toList file pieces last whole
  have inside := kind_ne_eof_of_mem whole []
  obtain ⟨_, recorded⟩ := Parser.parseStatements_segments segments rfl inside _ faces
  have logged : (Parser.ofSource source file).Logged
      [.read (Parser.ofSource source file).current] := rfl
  have events := logged.segments segments rfl inside faces
  refine ⟨tokensBehind [] pieces, _, spans, whole.tokenize_eq, rfl, inside, segments, ?_, recorded⟩
  have first : (Parser.ofSource source file).current
      = (tokensBehind [] pieces).headD (Lexeme.ending.tokenBehind source.toList) :=
    faces.current_eq
  rw [first] at events
  rw [traceOf, List.flatMap_cons, List.flatMap_append, ← List.map_replicate,
    TraceEntry.flatMap_events_silent, List.map_replicate, ← segments.tokens_eq, extraEnds_eq]
  exact events.trans (List.append_assoc _ _ _)

end MonkeySyntax
