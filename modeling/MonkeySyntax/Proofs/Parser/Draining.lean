import MonkeySyntax.Proofs.Parser.Sharing
import MonkeySyntax.Proofs.TokenStream.Pulls

/-!
# How a parse ends and what it reads

`EndsForGood` and `Drained` say of a state that the end of the text is the end for good; both
survive any row of steps.

A parse reads a bounded number of tokens from any state.  From the beginning of a text the number is
exact, span by span: each span costs its own tokens, and one that the tokens run out on costs one
end more.
-/

set_option autoImplicit false

namespace MonkeySyntax

/-! ## The number of tokens -/

theorem length_tokensBehind (before : List Char) (pieces : List Piece) :
    (tokensBehind before pieces).length = pieces.length := by
  rw [← List.length_map Token.lexeme, map_lexeme_tokensBehind, List.length_map]

theorem Decomposes.length_pieces_le {source : List Char} {pieces : List Piece} {last : List Char}
    (whole : Decomposes source pieces last) : pieces.length ≤ source.length := by
  induction pieces generalizing source with
  | nil => exact Nat.zero_le _
  | cons piece pieces ih =>
    obtain ⟨tail, spells, _, form, _, behind⟩ := (cons_iff _ _ _ _).mp whole
    have positive := List.length_pos_of_ne_nil form.nonempty
    have later := ih behind
    rw [spells, List.length_cons, List.length_append, List.length_append]
    omega

theorem length_tokenize_le (source : String) : (tokenize source).length ≤ source.length + 1 := by
  obtain ⟨pieces, last, whole⟩ := exists_decomposition source.toList
  rw [whole.tokenize_eq, List.length_append, length_tokensBehind, List.length_singleton,
    ← String.length_toList]
  exact Nat.succ_le_succ whole.length_pieces_le

namespace Parser

/-! ## The end is the end for good -/

/-- Behind an end in the window there are only ends. -/
structure EndsForGood (parser : Parser) : Prop where
  upcoming : parser.current.kind = .eof → parser.upcoming.kind = .eof
  rest : parser.upcoming.kind = .eof → parser.cursor.rest = []

theorem endsForGood_ofCursor (cursor : Cursor) (file : String) :
    EndsForGood (ofCursor cursor file) where
  upcoming := by
    intro ended
    exact (Cursor.next_of_ended _ (Cursor.rest_of_read_end cursor ended)).1
  rest := fun ended => Cursor.rest_of_read_end _ ended

theorem stable_endsForGood : Stable EndsForGood where
  advance := by
    intro parser ends
    refine ⟨?_, fun ended => Cursor.rest_of_read_end parser.cursor ended⟩
    intro ended
    exact (Cursor.next_of_ended parser.cursor (ends.rest ended)).1
  report := fun _ ends => ⟨ends.upcoming, ends.rest⟩
  skipUnsupported := fun ends => ⟨ends.upcoming, ends.rest⟩
  readBehind := by
    intro parser ends
    refine ⟨ends.upcoming, ?_⟩
    intro ended
    have stays := (Cursor.next_of_ended parser.cursor (ends.rest ended)).2
    exact (congrArg Cursor.rest stays).trans (ends.rest ended)

/-- The parser sees the end twice and there is no more text. -/
structure Drained (parser : Parser) : Prop where
  current : parser.current.kind = .eof
  upcoming : parser.upcoming.kind = .eof
  rest : parser.cursor.rest = []

theorem EndsForGood.drained {parser : Parser} (ends : EndsForGood parser)
    (ended : parser.current.kind = .eof) : Drained parser :=
  ⟨ended, ends.upcoming ended, ends.rest (ends.upcoming ended)⟩

theorem stable_drained : Stable Drained where
  advance := by
    intro parser drained
    obtain ⟨kind, stays⟩ := Cursor.next_of_ended parser.cursor drained.rest
    exact ⟨drained.upcoming, kind, (congrArg Cursor.rest stays).trans drained.rest⟩
  report := fun _ drained => ⟨drained.current, drained.upcoming, drained.rest⟩
  skipUnsupported := fun drained => ⟨drained.current, drained.upcoming, drained.rest⟩
  readBehind := by
    intro parser drained
    have stays := (Cursor.next_of_ended parser.cursor drained.rest).2
    exact ⟨drained.current, drained.upcoming, (congrArg Cursor.rest stays).trans drained.rest⟩

theorem Drained.parseProgram_eq {parser : Parser} (drained : Drained parser) :
    parser.parseProgram = (.program [], parser) := by
  rw [parseProgram, parseStatements_of_ended drained.current]

/-! ## Turns -/

def turn (parser : Parser) : Parser :=
  parser.parseStatement.2.advance

theorem parseStatements_turns (parser : Parser) :
    ∃ count ≤ parser.pending, parser.parseStatements.2 = turn^[count] parser ∧
      ∀ earlier < count, (turn^[earlier] parser).current.kind ≠ .eof := by
  fun_induction parseStatements parser with
  | case1 parser ended => exact ⟨0, Nat.zero_le _, rfl, by simp⟩
  | case2 parser more parsed later ih =>
    obtain ⟨count, bound, reached, goesOn⟩ := ih
    have progress : parsed.2.advance.pending < parser.pending :=
      pending_parseStatement_lt parser more
    refine ⟨count + 1, by omega, ?_, ?_⟩
    · rw [Function.iterate_succ_apply]
      exact reached
    · intro earlier less
      cases earlier with
      | zero => exact more
      | succ earlier =>
        rw [Function.iterate_succ_apply]
        exact goesOn earlier (Nat.lt_of_succ_lt_succ less)

/-! ## A bound for the readings

What has been read and what may still matter: no movement before the end adds to it. -/

theorem length_taken_advance (parser : Parser) :
    parser.advance.taken.length = parser.taken.length + 1 := by
  rw [taken_advance, List.length_append, List.length_singleton]

theorem length_taken_advances (parser : Parser) (count : Nat) :
    (advance^[count] parser).taken.length = parser.taken.length + count := by
  induction count with
  | zero => rfl
  | succ count ih => rw [Function.iterate_succ_apply', length_taken_advance, ih, Nat.add_assoc]

def account (parser : Parser) : Nat :=
  parser.taken.length + parser.pending

theorem account_report (parser : Parser) (diagnostic : Diagnostic) :
    (parser.report diagnostic).account = parser.account := by
  rw [account, taken_report]
  rfl

theorem account_skipUnsupported (parser : Parser) :
    parser.skipUnsupported.2.account = parser.account := by
  rw [account, taken_skipUnsupported]
  rfl

theorem account_advance_le (parser : Parser) (more : parser.current.kind ≠ .eof) :
    parser.advance.account ≤ parser.account := by
  have progress := pending_advance_lt parser more
  rw [account, account, length_taken_advance]
  omega

theorem account_skipToSemicolon_le (parser : Parser) :
    parser.skipToSemicolon.account ≤ parser.account := by
  fun_induction skipToSemicolon parser with
  | case1 parser stops => exact Nat.le_refl _
  | case2 parser goes ih =>
    exact Nat.le_trans ih (account_advance_le parser (fun ended => goes (Or.inr ended)))

theorem account_expect_le (parser : Parser) (kind : Kind) (more : parser.current.kind ≠ .eof) :
    (parser.expect kind).2.account ≤ parser.account := by
  by_cases found : parser.upcoming.kind = kind
  · rw [expect_of_kind parser kind found]
    exact account_advance_le parser more
  · rw [expect_of_ne parser kind found, account_report]

theorem account_parseLet_le (parser : Parser) (more : parser.current.kind ≠ .eof) :
    parser.parseLet.2.account ≤ parser.account := by
  have named := account_expect_le parser .ident more
  by_cases found : parser.upcoming.kind = .ident
  · have slid := expect_of_kind parser .ident found
    have onName : parser.advance.current.kind ≠ .eof := by
      have here : parser.advance.current.kind = .ident := found
      simp [here]
    have assigned := account_expect_le parser.advance .assign onName
    have skipped := account_skipToSemicolon_le (parser.advance.expect .assign).2
    simp only [slid] at named
    simp only [parseLet, slid, if_true]
    split
    · exact Nat.le_trans skipped (Nat.le_trans assigned named)
    · exact Nat.le_trans assigned named
  · simpa [parseLet, expect_of_ne parser .ident found] using named

theorem account_parseStatement_le (parser : Parser) (more : parser.current.kind ≠ .eof) :
    parser.parseStatement.2.account ≤ parser.account := by
  unfold parseStatement
  split
  · exact account_parseLet_le parser more
  · split
    · exact account_skipToSemicolon_le parser
    · rw [account_skipUnsupported]

/-- Only the last turn can slide the window over the end, and it does so once. -/
theorem length_taken_parseStatements_le (parser : Parser) (ends : EndsForGood parser) :
    parser.parseStatements.2.taken.length ≤ parser.account + 1 := by
  fun_induction parseStatements parser with
  | case1 parser ended => exact Nat.le_succ_of_le (Nat.le_add_right _ _)
  | case2 parser more parsed later ih =>
    have read := account_parseStatement_le parser more
    have behind : EndsForGood parsed.2 :=
      stable_endsForGood.works (works_parseStatement parser) ends
    by_cases ended : parsed.2.current.kind = .eof
    · have last := stable_drained.advance (behind.drained ended)
      have size := length_taken_advance parsed.2
      simp only [later, parseStatements_of_ended last.current]
      have one : parsed.2.taken.length ≤ parsed.2.account := Nat.le_add_right _ _
      have same : parsed.2.account ≤ parser.account := read
      omega
    · have slid := account_advance_le parsed.2 ended
      have bound := ih (stable_endsForGood.advance behind)
      exact Nat.le_trans bound (Nat.succ_le_succ (Nat.le_trans slid read))

/-! ## The exact number of readings -/

end Parser

namespace Span

/-- A statement whose semicolon is missing, so that it took all the tokens. -/
def runsOut : Span → Bool
  | letStatement _ _ _ _ stop? | returnStatement _ _ stop? => stop?.isNone
  | nameless _ | unassigned _ _ | unsupported _ => false

theorem runsOut_eq_false {span : Span} {following : List Token} {ending : Token}
    (fits : span.Fits following ending) (more : following ≠ []) : span.runsOut = false := by
  cases span with
  | letStatement anchor name assign body stop? =>
    obtain ⟨_, _, _, passed⟩ := fits
    cases ended : stop? with
    | none => exact absurd (passed.open_end ended) more
    | some semicolon => rfl
  | returnStatement anchor body stop? =>
    obtain ⟨_, passed⟩ := fits
    cases ended : stop? with
    | none => exact absurd (passed.open_end ended) more
    | some semicolon => rfl
  | nameless | unassigned | unsupported => rfl

end Span

theorem Span.runsOut_or_last {span : Span} {spans : List Span} {following : List Token}
    {ending : Token} (fits : span.Fits following ending)
    (later : Segments ending following spans) : span.runsOut = false ∨ spans = [] := by
  cases later with
  | nil => exact Or.inr rfl
  | @cons other others rest otherFits later =>
    have more : other.tokens ++ rest ≠ [] := List.append_ne_nil_of_left_ne_nil other.tokens_ne_nil _
    exact Or.inl (Span.runsOut_eq_false fits more)

def endsOpen (spans : List Span) : Bool :=
  spans.getLast?.any Span.runsOut

theorem endsOpen_cons {span : Span} {spans : List Span} {following : List Token} {ending : Token}
    (fits : span.Fits following ending) (later : Segments ending following spans) :
    (endsOpen (span :: spans)).toNat = span.runsOut.toNat + (endsOpen spans).toNat := by
  rcases Span.runsOut_or_last fits later with closed | rfl
  · cases spans with
    | nil => simp [endsOpen, closed]
    | cons other others => simp [endsOpen, closed, List.getLast?_cons_cons]
  · rfl

namespace Parser.Faces

variable {parser : Parser} {tokens : List Token} {ending : Token}

variable {following : List Token}

theorem skipToSemicolon_passedOver {first : Token} {body : List Token} {stop? : Option Token}
    (faces : parser.Faces (first :: (body ++ stop?.toList ++ following)) ending)
    (ended : ending.kind = .eof) (other : first.kind ≠ .semicolon)
    (passed : PassedOver body stop? following)
    (inside : ∀ token ∈ first :: (body ++ stop?.toList ++ following), token.kind ≠ .eof) :
    parser.skipToSemicolon = Parser.advance^[body.length + 1] parser := by
  have start : passesOver first = true := by simpa [passesOver] using other
  have body_eq : (first :: (body ++ stop?.toList ++ following)).takeWhile passesOver
      = first :: body := by
    rw [List.takeWhile_cons, if_pos start, List.append_assoc, passed.takeWhile_eq]
  rw [faces.skipToSemicolon_eq ended inside, body_eq, List.length_cons]

theorem length_taken_passedOver {first : Token} {body : List Token} {stop? : Option Token}
    (faces : parser.Faces (first :: (body ++ stop?.toList ++ following)) ending)
    (ended : ending.kind = .eof) (other : first.kind ≠ .semicolon)
    (passed : PassedOver body stop? following)
    (inside : ∀ token ∈ first :: (body ++ stop?.toList ++ following), token.kind ≠ .eof) :
    parser.skipToSemicolon.advance.taken.length
      = parser.taken.length + (first :: (body ++ stop?.toList)).length + stop?.isNone.toNat := by
  rw [length_taken_advance, faces.skipToSemicolon_passedOver ended other passed inside,
    length_taken_advances]
  cases stop? with
  | none => simp
  | some semicolon => simp; omega

theorem length_taken_span (span : Span) (fits : span.Fits following ending)
    (faces : parser.Faces (span.tokens ++ following) ending) (ended : ending.kind = .eof)
    (inside : ∀ token ∈ span.tokens ++ following, token.kind ≠ .eof) :
    parser.turn.taken.length
      = parser.taken.length + span.tokens.length + span.runsOut.toNat := by
  cases span with
  | letStatement anchor name assign body stop? =>
    have read := faces.parseStatement_letStatement fits
    obtain ⟨_, _, isAssign, passed⟩ := fits
    have insideRest :=
      List.forall_mem_of_forall_mem_cons (List.forall_mem_of_forall_mem_cons inside)
    have size := faces.advance.advance.length_taken_passedOver ended (by simp [isAssign]) passed
      insideRest
    have onAssign : parser.advance.advance.taken.length = parser.taken.length + 2 := by
      rw [length_taken_advance, length_taken_advance]
    rw [onAssign] at size
    rw [turn, read, size]
    simp only [Span.tokens, Span.runsOut, List.length_cons]
    omega
  | returnStatement anchor body stop? =>
    have read := faces.parseStatement_returnStatement fits
    obtain ⟨isReturn, passed⟩ := fits
    rw [turn, read]
    exact faces.length_taken_passedOver ended (by simp [isReturn]) passed inside
  | nameless anchor =>
    rw [turn, faces.parseStatement_nameless fits, length_taken_advance, taken_report]
    rfl
  | unassigned anchor name =>
    rw [turn, faces.parseStatement_unassigned fits, length_taken_advance, taken_report,
      length_taken_advance]
    rfl
  | unsupported token =>
    rw [turn, faces.parseStatement_unsupported fits, length_taken_advance, taken_skipUnsupported]
    rfl

theorem length_taken_segments {list : List Token} {spans : List Span}
    (segments : Segments ending list spans) (ended : ending.kind = .eof)
    (inside : ∀ token ∈ list, token.kind ≠ .eof) {parser : Parser}
    (faces : parser.Faces list ending) :
    parser.parseStatements.2.taken.length
      = parser.taken.length + list.length + (endsOpen spans).toNat := by
  induction segments generalizing parser with
  | nil =>
    have here : parser.current = ending := faces.current_eq
    rw [parseStatements_of_ended (by rw [here, ended])]
    rfl
  | @cons span spans following fits later ih =>
    obtain ⟨token, more, starts⟩ := List.exists_cons_of_ne_nil span.tokens_ne_nil
    have here : parser.current = token := by rw [faces.current_eq, starts]; rfl
    have goesOn : parser.current.kind ≠ .eof := by
      rw [here]
      exact inside token (by simp [starts])
    have read := reads_span span fits faces ended inside
    have cost := length_taken_span span fits faces ended inside
    have rest := ih (fun token member => inside token (List.mem_append_right _ member)) read.faces
    have onward : parser.parseStatements.2 = parser.turn.parseStatements.2 := by
      rw [parseStatements, if_neg goesOn]
      rfl
    have same : parser.parseStatement.2.advance = parser.turn := rfl
    rw [same] at rest
    rw [onward, rest, cost, endsOpen_cons fits later, List.length_append]
    omega

end Parser.Faces

namespace Parser

/-- How parsing goes from a state: it stops after finitely many turns and readings, at the end of
the text, and whatever is done later, it finds and records nothing more and stays where it is. -/
structure Drains (parser : Parser) : Prop where
  turns : ∃ count ≤ parser.pending, parser.parseProgram.2 = turn^[count] parser ∧
    ∀ earlier < count, (turn^[earlier] parser).current.kind ≠ .eof
  readings : parser.parseProgram.2.taken.length ≤ parser.taken.length + parser.pending + 1
  ended : parser.parseProgram.2.current.kind = .eof
  again : ∀ steps, (parser.parseProgram.2.after steps).parseProgram
    = (.program [], parser.parseProgram.2.after steps)

theorem drains_of_endsForGood (parser : Parser) (ends : EndsForGood parser) : Drains parser where
  turns := parseStatements_turns parser
  readings := length_taken_parseStatements_le parser ends
  ended := current_parseStatements parser
  again := by
    intro steps
    have behind := stable_endsForGood.works (works_parseStatements parser) ends
    have drained := behind.drained (current_parseStatements parser)
    exact (stable_drained.after drained steps).parseProgram_eq

theorem pulled_of_works {cursor : Cursor} {file : String} {later : Parser}
    (worked : (ofCursor cursor file).Works later) :
    Cursor.Pulled cursor later.taken later.cursor := by
  obtain ⟨count, ahead, taken, _⟩ := worked.advanced
  have first : Cursor.Pulled cursor (ofCursor cursor file).taken (ofCursor cursor file).cursor :=
    (Cursor.pulled_next cursor).append (Cursor.pulled_next cursor.next.2)
  have more : Cursor.Pulled (ofCursor cursor file).cursor
      ((List.range count).map (ofCursor cursor file).cursor.pull)
      ((ofCursor cursor file).cursor.skipTokens count) := by
    constructor
    · rw [List.length_map, List.length_range]
    · rw [List.length_map, List.length_range]
  rw [ahead, taken]
  exact first.append more

/-- From every state that the steps of a parser and readings behind its window can reach, parsing
stops at the end of the text and finds nothing there ever after.  A parse of a whole text reads
each token once and the end once more, and again if the last statement has no semicolon. -/
theorem parseProgram_drains (source file : String) :
    (∀ (skip : Nat) (steps : List Step),
        Drains ((behindSkipped source file skip).after steps)) ∧
      (tokenize source).length ≤ source.length + 1 ∧
      ∃ (tokens : List Token) (ending : Token) (spans : List Span),
        tokenize source = tokens ++ [ending] ∧ Segments ending tokens spans ∧
          Cursor.Pulled (Cursor.ofSource source) (ofSource source file).parseProgram.2.taken
            (ofSource source file).parseProgram.2.cursor ∧
          (ofSource source file).parseProgram.2.taken.length
            = (tokenize source).length + (if endsOpen spans then 2 else 1) := by
  obtain ⟨pieces, last, whole⟩ := exists_decomposition source.toList
  obtain ⟨spans, segments⟩ :=
    exists_segments (Lexeme.ending.tokenBehind source.toList) rfl (tokensBehind [] pieces)
  have read := pulled_of_works (works_parseStatements (ofSource source file))
  refine ⟨?_, length_tokenize_le source, tokensBehind [] pieces, _, spans, whole.tokenize_eq,
    segments, read, ?_⟩
  · intro skip steps
    exact drains_of_endsForGood _ (stable_endsForGood.after (endsForGood_ofCursor _ file) steps)
  · have faces := faces_ofCursor [] source.toList file pieces last whole
    have size := faces.length_taken_segments segments rfl (kind_ne_eof_of_mem whole [])
    have first : (ofSource source file).taken.length = 2 := rfl
    have total : (ofSource source file).parseProgram.2.taken.length
        = 2 + (tokensBehind [] pieces).length + (endsOpen spans).toNat := size
    rw [total, whole.tokenize_eq, List.length_append, List.length_singleton]
    cases endsOpen spans with
    | false => simp; omega
    | true => simp; omega

/-- Two tokens, of which the second is the end, and two ends more. -/
example : (ofSource "return" "a").parseProgram.2.taken.map Token.kind
    = [.returnWord, .eof, .eof, .eof] := by
  decide +kernel

end Parser

end MonkeySyntax
