import MonkeySyntax.Proofs.Parser.Relocation
import MonkeySyntax.Proofs.TokenStream.Concatenation
import MonkeySyntax.Proofs.TokenStream.Shift

/-!
# A semicolon starts the parser afresh

Tokens that end in a semicolon are segmented the same way whatever comes behind them: a header
cannot break off at a semicolon without being blamed on it, and a statement that passes over tokens
stops there.
-/

set_option autoImplicit false

namespace MonkeySyntax

def Closed (list : List Token) : Prop :=
  ∀ token ∈ list.getLast?, token.kind = .semicolon

theorem Closed.tail {first following : List Token} (closed : Closed (first ++ following)) :
    Closed following := by
  intro token last
  apply closed token
  rw [List.getLast?_append, Option.mem_def.mp last]
  rfl

theorem Closed.nonempty (first : List Token) {following : List Token} {token : Token}
    (closed : Closed (first ++ [token] ++ following)) (other : token.kind ≠ .semicolon) :
    following ≠ [] := by
  rintro rfl
  exact other (closed token (by simp))

theorem PassedOver.extend {first body following : List Token} {stop? : Option Token}
    (passed : PassedOver body stop? following) (nonempty : first ≠ [])
    (header : ∀ token ∈ first, token.kind ≠ .semicolon)
    (closed : Closed (first ++ (body ++ stop?.toList) ++ following)) (more : List Token) :
    PassedOver body stop? (following ++ more) := by
  refine ⟨passed.body_kind, passed.stop_kind, fun ended => ?_⟩
  -- Without a semicolon of its own the span would run to a last token that is none.
  subst ended
  have following_nil := passed.open_end rfl
  subst following_nil
  rw [Option.toList_none, List.append_nil, List.append_nil] at closed
  have some_last : first ++ body ≠ [] := by simp [nonempty]
  have last := closed _ (List.getLast?_eq_some_getLast some_last)
  rcases List.mem_append.mp (List.getLast_mem some_last) with inHeader | inBody
  · exact absurd last (header _ inHeader)
  · exact absurd last (passed.body_kind _ inBody)

theorem headD_append (following more : List Token) (ending other : Token)
    (nonempty : following ≠ []) : (following ++ more).headD other = following.headD ending := by
  cases following with
  | nil => contradiction
  | cons token following => rfl

/-- What a closed list makes of its first span does not depend on what comes behind the list. -/
theorem Span.Fits.extend {span : Span} {following : List Token} {ending : Token}
    (fits : span.Fits following ending) (closed : Closed (span.tokens ++ following))
    (more : List Token) (other : Token) :
    span.Fits (following ++ more) other ∧
      span.fault? (following ++ more) other = span.fault? following ending := by
  cases span with
  | letStatement anchor name assign body stop? =>
    obtain ⟨isLet, isName, isAssign, passed⟩ := fits
    have header : ∀ token ∈ [anchor, name, assign], token.kind ≠ .semicolon := by
      simp [isLet, isName, isAssign]
    exact ⟨⟨isLet, isName, isAssign, passed.extend (by simp) header closed more⟩, rfl⟩
  | returnStatement anchor body stop? =>
    obtain ⟨isReturn, passed⟩ := fits
    have header : ∀ token ∈ [anchor], token.kind ≠ .semicolon := by simp [isReturn]
    exact ⟨⟨isReturn, passed.extend (by simp) header closed more⟩, rfl⟩
  | nameless anchor =>
    obtain ⟨isLet, noName⟩ := fits
    have nonempty : following ≠ [] := Closed.nonempty [] closed (by simp [isLet])
    have same := headD_append following more ending other nonempty
    exact ⟨⟨isLet, by rw [same]; exact noName⟩, by rw [fault?, fault?, same]⟩
  | unassigned anchor name =>
    obtain ⟨isLet, isName, noAssign⟩ := fits
    have nonempty : following ≠ [] :=
      Closed.nonempty [anchor] closed (by simp [isName])
    have same := headD_append following more ending other nonempty
    exact ⟨⟨isLet, isName, by rw [same]; exact noAssign⟩, by rw [fault?, fault?, same]⟩
  | unsupported token => exact ⟨fits, rfl⟩

theorem Segments.append {ending other : Token} {list rest : List Token}
    {spans others : List Span} (left : Segments ending list spans)
    (right : Segments other rest others) (closed : Closed list) :
    Segments other (list ++ rest) (spans ++ others) ∧
      faults other (spans ++ others) = faults ending spans ++ faults other others := by
  induction left with
  | nil => exact ⟨right, rfl⟩
  | @cons span spans following fits later ih =>
    obtain ⟨segments, found⟩ := ih closed.tail
    obtain ⟨stillFits, sameFault⟩ := fits.extend closed rest other
    constructor
    · rw [List.append_assoc]
      exact .cons stillFits segments
    · rw [List.cons_append, faults, faults, found, ← later.tokens_eq, ← segments.tokens_eq,
        sameFault, List.append_assoc]

/-! ## Texts -/

theorem keepsLexeme_behind (before : List Char) : KeepsLexeme (Token.behind before) :=
  ⟨fun _ => rfl, fun _ => rfl⟩

theorem Fault.diagnostic_relocate (before : List Char) (file : String) (fault : Fault) :
    (fault.relocate (Token.behind before)).diagnostic file
      = (fault.diagnostic file).behind before :=
  rfl

def Node.behind (before : List Char) : Node → Node :=
  Node.relocate (Token.behind before)

theorem Decomposes.closed_of_semicolon {a : String} {pieces : List Piece} {last : List Char}
    (whole : Decomposes (a ++ ";").toList pieces last) (next : List Char) :
    EndsAtJoint pieces last next ∧ Closed (tokensBehind [] pieces) := by
  rw [String.toList_append] at whole
  obtain ⟨rfl, earlier, gap, rfl⟩ := whole.ends_in_semicolon
  constructor
  · intro _ piece final
    obtain rfl : ⟨gap, ⟨.semicolon, [';']⟩⟩ = piece := by simpa using final
    exact Lexeme.semicolon_endsBefore next
  · intro token final
    rw [tokensBehind_append, tokensBehind, tokensBehind, List.getLast?_concat] at final
    obtain rfl := Option.some.inj final
    rfl

/-- Parsing a text behind a semicolon adds its statements and its diagnostics to those of the text
before it, moved to where they stand. -/
theorem parse_behind_semicolon (a b file : String) :
    (Parser.ofSource (a ++ ";" ++ b) file).parseProgram.1
        = .program ((Parser.ofSource (a ++ ";") file).parseProgram.1.children
            ++ (Parser.ofSource b file).parseProgram.1.children.map
                (Node.behind (a ++ ";").toList)) ∧
      (Parser.ofSource (a ++ ";" ++ b) file).parseProgram.2.diagnostics.toList
        = (Parser.ofSource (a ++ ";") file).parseProgram.2.diagnostics.toList
            ++ (Parser.ofSource b file).parseProgram.2.diagnostics.toList.map
                (Diagnostic.behind (a ++ ";").toList) := by
  obtain ⟨pieces, last, left⟩ := exists_decomposition (a ++ ";").toList
  obtain ⟨others, otherLast, right⟩ := exists_decomposition b.toList
  obtain ⟨joint, closed⟩ := left.closed_of_semicolon b.toList
  obtain ⟨joined, joinedLast, whole, placed⟩ := left.append right joint
  obtain ⟨spans, segments⟩ :=
    exists_segments (Lexeme.ending.tokenBehind (a ++ ";").toList) rfl (tokensBehind [] pieces)
  obtain ⟨otherSpans, otherSegments⟩ :=
    exists_segments (Lexeme.ending.tokenBehind b.toList) rfl (tokensBehind [] others)
  have moved := otherSegments.relocate (keepsLexeme_behind (a ++ ";").toList)
  obtain ⟨allSegments, allFaults⟩ := segments.append moved closed
  have text : (a ++ ";" ++ b).toList = (a ++ ";").toList ++ b.toList := String.toList_append
  have tokens : tokensBehind [] joined
      = tokensBehind [] pieces
          ++ (tokensBehind [] others).map (Token.behind (a ++ ";").toList) := by
    rw [placed [], List.nil_append, ← tokensBehind_eq_map, List.append_nil]
  have ending : Lexeme.ending.tokenBehind (a ++ ";" ++ b).toList
      = (Lexeme.ending.tokenBehind b.toList).behind (a ++ ";").toList := by
    rw [text, Lexeme.tokenBehind_append]
  rw [← tokens, ← ending] at allSegments
  rw [← ending] at allFaults
  rw [← text] at whole
  obtain ⟨wholeProgram, wholeFaults⟩ := parse_segments _ file joined joinedLast whole _ allSegments
  obtain ⟨program, recorded⟩ := parse_segments _ file pieces last left _ segments
  obtain ⟨otherProgram, otherRecorded⟩ :=
    parse_segments _ file others otherLast right _ otherSegments
  constructor
  · rw [wholeProgram, program, otherProgram, List.filterMap_append,
      statements_relocate (keepsLexeme_behind (a ++ ";").toList)]
    rfl
  · rw [wholeFaults, recorded, otherRecorded, allFaults, ending, faults_relocate, List.map_append,
      List.map_map, List.map_map]
    simp only [Function.comp_def, Fault.diagnostic_relocate]

end MonkeySyntax
