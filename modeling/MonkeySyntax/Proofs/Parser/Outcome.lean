import MonkeySyntax.Proofs.Parser.Window

/-!
# What a segmented text parses to

`reads_span` is the step: reading the span that the parser faces leaves the tokens behind it. 
`parseStatements_segments` is the run over all spans.
-/

set_option autoImplicit false

namespace MonkeySyntax

structure Fault where
  expected : Kind
  found : Token
deriving DecidableEq, Repr

def Fault.diagnostic (file : String) (fault : Fault) : Diagnostic :=
  .unexpectedToken fault.expected fault.found file

namespace Span

def statement? : Span → Option Node
  | letStatement anchor name _ _ _ =>
    some (.letStatement anchor (.identifier name name.text) none)
  | returnStatement anchor _ _ => some (.returnStatement anchor none)
  | nameless _ | unassigned _ _ | unsupported _ => none

/-- A header that breaks off is blamed on the token behind it, which may be the end. -/
def fault? (following : List Token) (ending : Token) : Span → Option Fault
  | nameless _ => some ⟨.ident, following.headD ending⟩
  | unassigned _ _ => some ⟨.assign, following.headD ending⟩
  | letStatement _ _ _ _ _ | returnStatement _ _ _ | unsupported _ => none

end Span

def faults (ending : Token) : List Span → List Fault
  | [] => []
  | span :: spans =>
    (span.fault? (spans.flatMap Span.tokens) ending).toList ++ faults ending spans

theorem Segments.tokens_eq {ending : Token} {list : List Token} {spans : List Span}
    (segments : Segments ending list spans) : list = spans.flatMap Span.tokens := by
  induction segments with
  | nil => rfl
  | cons fits later ih => rw [List.flatMap_cons, ih]

namespace Parser

theorem expect_of_kind (parser : Parser) (kind : Kind) (found : parser.upcoming.kind = kind) :
    parser.expect kind = (true, parser.advance) := by
  simp [expect, upcomingIs, found]

theorem expect_of_ne (parser : Parser) (kind : Kind) (other : parser.upcoming.kind ≠ kind) :
    parser.expect kind
      = (false, parser.report (Fault.diagnostic parser.file ⟨kind, parser.upcoming⟩)) := by
  simp [expect, upcomingIs, other, Fault.diagnostic]

/-- What reading a span comes to: its statement, the parser that has recorded its fault, and the
tokens behind it ahead. -/
structure Reads (parser : Parser) (outcome : Option Node × Parser) (span : Span)
    (following : List Token) (ending : Token) : Prop where
  statement : outcome.1 = span.statement?
  faces : outcome.2.advance.Faces following ending
  file_eq : outcome.2.file = parser.file
  recorded : outcome.2.diagnostics.toList
    = parser.diagnostics.toList
        ++ (span.fault? following ending).toList.map (Fault.diagnostic parser.file)

section Steps

variable {parser : Parser} {following : List Token} {ending : Token}

/-! What the parser does with each span that it faces. -/

theorem Faces.parseStatement_letStatement {anchor name assign : Token} {body : List Token}
    {stop? : Option Token}
    (faces : parser.Faces
      ((Span.letStatement anchor name assign body stop?).tokens ++ following) ending)
    (fits : (Span.letStatement anchor name assign body stop?).Fits following ending) :
    parser.parseStatement
      = (some (.letStatement anchor (.identifier name name.text) none),
          parser.advance.advance.skipToSemicolon) := by
  obtain ⟨isLet, isName, isAssign, _⟩ := fits
  have onAnchor : parser.current = anchor := faces.current_eq
  have named : parser.upcoming = name := faces.upcoming_eq
  have onName : parser.advance.current = name := faces.advance.current_eq
  have assigned : parser.advance.upcoming = assign := faces.advance.upcoming_eq
  have first := parser.expect_of_kind .ident (by rw [named, isName])
  have second := parser.advance.expect_of_kind .assign (by rw [assigned, isAssign])
  simp [parseStatement, currentIs, parseLet, onAnchor, isLet, first, second, onName]

theorem Faces.parseStatement_returnStatement {anchor : Token} {body : List Token}
    {stop? : Option Token}
    (faces : parser.Faces ((Span.returnStatement anchor body stop?).tokens ++ following) ending)
    (fits : (Span.returnStatement anchor body stop?).Fits following ending) :
    parser.parseStatement = (some (.returnStatement anchor none), parser.skipToSemicolon) := by
  obtain ⟨isReturn, _⟩ := fits
  have onAnchor : parser.current = anchor := faces.current_eq
  simp [parseStatement, currentIs, parseReturn, onAnchor, isReturn]

theorem Faces.parseStatement_nameless {anchor : Token}
    (faces : parser.Faces ((Span.nameless anchor).tokens ++ following) ending)
    (fits : (Span.nameless anchor).Fits following ending) :
    parser.parseStatement
      = (none, parser.report (Fault.diagnostic parser.file ⟨.ident, following.headD ending⟩)) := by
  obtain ⟨isLet, noName⟩ := fits
  have onAnchor : parser.current = anchor := faces.current_eq
  have next : parser.upcoming = following.headD ending := faces.upcoming_eq
  have refused := parser.expect_of_ne .ident (by rw [next]; exact noName)
  simp [parseStatement, currentIs, parseLet, onAnchor, isLet, refused, next]

theorem Faces.parseStatement_unassigned {anchor name : Token}
    (faces : parser.Faces ((Span.unassigned anchor name).tokens ++ following) ending)
    (fits : (Span.unassigned anchor name).Fits following ending) :
    parser.parseStatement
      = (none, parser.advance.report
          (Fault.diagnostic parser.file ⟨.assign, following.headD ending⟩)) := by
  obtain ⟨isLet, isName, noAssign⟩ := fits
  have onAnchor : parser.current = anchor := faces.current_eq
  have named : parser.upcoming = name := faces.upcoming_eq
  have next : parser.advance.upcoming = following.headD ending := faces.advance.upcoming_eq
  have first := parser.expect_of_kind .ident (by rw [named, isName])
  have refused := parser.advance.expect_of_ne .assign (by rw [next]; exact noAssign)
  simp [parseStatement, currentIs, parseLet, onAnchor, isLet, first, refused, next]
  rfl

theorem Faces.parseStatement_unsupported {token : Token}
    (faces : parser.Faces ((Span.unsupported token).tokens ++ following) ending)
    (fits : (Span.unsupported token).Fits following ending) :
    parser.parseStatement = parser.skipUnsupported := by
  obtain ⟨notLet, notReturn⟩ := fits
  have here : parser.current = token := faces.current_eq
  simp [parseStatement, currentIs, here, notLet, notReturn]

theorem Faces.skip_passedOver {first : Token} {body : List Token} {stop? : Option Token}
    (faces : parser.Faces (first :: (body ++ stop?.toList ++ following)) ending)
    (ended : ending.kind = .eof) (other : first.kind ≠ .semicolon)
    (passed : PassedOver body stop? following)
    (inside : ∀ token ∈ first :: (body ++ stop?.toList ++ following), token.kind ≠ .eof) :
    parser.skipToSemicolon.advance.Faces following ending := by
  have later := (faces.skipToSemicolon ended inside).advance
  have start : passesOver first = true := by simpa [passesOver] using other
  have left : ((first :: (body ++ stop?.toList ++ following)).dropWhile passesOver).tail
      = following := by
    rw [List.dropWhile_cons, if_pos start, List.append_assoc, passed.dropWhile_eq]
    cases last : stop? with
    | none => simp [passed.open_end last]
    | some semicolon => simp
  rw [left] at later
  exact later

theorem reads_letStatement (anchor name assign : Token) (body : List Token)
    (stop? : Option Token)
    (fits : (Span.letStatement anchor name assign body stop?).Fits following ending)
    (faces : parser.Faces
      ((Span.letStatement anchor name assign body stop?).tokens ++ following) ending)
    (ended : ending.kind = .eof)
    (inside : ∀ token ∈ (Span.letStatement anchor name assign body stop?).tokens ++ following,
      token.kind ≠ .eof) :
    parser.Reads parser.parseStatement (.letStatement anchor name assign body stop?)
      following ending := by
  have read := faces.parseStatement_letStatement fits
  obtain ⟨isLet, isName, isAssign, passed⟩ := fits
  obtain ⟨file_eq, unchanged⟩ := skipToSemicolon_frame parser.advance.advance
  have insideRest :=
    List.forall_mem_of_forall_mem_cons (List.forall_mem_of_forall_mem_cons inside)
  have later := faces.advance.advance.skip_passedOver ended (by simp [isAssign]) passed insideRest
  rw [read]
  refine ⟨rfl, later, file_eq, ?_⟩
  rw [unchanged]
  simp [advance, Span.fault?]

theorem reads_returnStatement (anchor : Token) (body : List Token) (stop? : Option Token)
    (fits : (Span.returnStatement anchor body stop?).Fits following ending)
    (faces : parser.Faces ((Span.returnStatement anchor body stop?).tokens ++ following) ending)
    (ended : ending.kind = .eof)
    (inside : ∀ token ∈ (Span.returnStatement anchor body stop?).tokens ++ following,
      token.kind ≠ .eof) :
    parser.Reads parser.parseStatement (.returnStatement anchor body stop?) following ending := by
  have read := faces.parseStatement_returnStatement fits
  obtain ⟨isReturn, passed⟩ := fits
  obtain ⟨file_eq, unchanged⟩ := skipToSemicolon_frame parser
  have later := faces.skip_passedOver ended (by simp [isReturn]) passed inside
  rw [read]
  refine ⟨rfl, later, file_eq, ?_⟩
  rw [unchanged]
  simp [Span.fault?]

theorem reads_nameless (anchor : Token) (fits : (Span.nameless anchor).Fits following ending)
    (faces : parser.Faces ((Span.nameless anchor).tokens ++ following) ending) :
    parser.Reads parser.parseStatement (.nameless anchor) following ending := by
  rw [faces.parseStatement_nameless fits]
  refine ⟨rfl, (faces.of_sameWindow (parser.sameWindow_report _)).advance, rfl, ?_⟩
  simp [report, Span.fault?]

theorem reads_unassigned (anchor name : Token)
    (fits : (Span.unassigned anchor name).Fits following ending)
    (faces : parser.Faces ((Span.unassigned anchor name).tokens ++ following) ending) :
    parser.Reads parser.parseStatement (.unassigned anchor name) following ending := by
  rw [faces.parseStatement_unassigned fits]
  refine ⟨rfl, (faces.advance.of_sameWindow (parser.advance.sameWindow_report _)).advance, rfl, ?_⟩
  simp [report, advance, Span.fault?]

theorem reads_unsupported (token : Token)
    (fits : (Span.unsupported token).Fits following ending)
    (faces : parser.Faces ((Span.unsupported token).tokens ++ following) ending) :
    parser.Reads parser.parseStatement (.unsupported token) following ending := by
  rw [faces.parseStatement_unsupported fits]
  refine ⟨rfl, (faces.of_sameWindow parser.sameWindow_skipUnsupported).advance, rfl, ?_⟩
  simp [skipUnsupported, Span.fault?]

theorem reads_span (span : Span) (fits : span.Fits following ending)
    (faces : parser.Faces (span.tokens ++ following) ending) (ended : ending.kind = .eof)
    (inside : ∀ token ∈ span.tokens ++ following, token.kind ≠ .eof) :
    parser.Reads parser.parseStatement span following ending := by
  cases span with
  | letStatement anchor name assign body stop? =>
    exact reads_letStatement anchor name assign body stop? fits faces ended inside
  | returnStatement anchor body stop? =>
    exact reads_returnStatement anchor body stop? fits faces ended inside
  | nameless anchor => exact reads_nameless anchor fits faces
  | unassigned anchor name => exact reads_unassigned anchor name fits faces
  | unsupported token => exact reads_unsupported token fits faces

end Steps

theorem parseStatements_of_ended {parser : Parser} (ended : parser.current.kind = .eof) :
    parser.parseStatements = ([], parser) := by
  rw [parseStatements, if_pos ended]

theorem parseStatements_segments {ending : Token} {list : List Token} {spans : List Span}
    (segments : Segments ending list spans) (ended : ending.kind = .eof)
    (inside : ∀ token ∈ list, token.kind ≠ .eof) (parser : Parser)
    (faces : parser.Faces list ending) :
    parser.parseStatements.1 = spans.filterMap Span.statement? ∧
      parser.parseStatements.2.diagnostics.toList
        = parser.diagnostics.toList
            ++ (faults ending spans).map (Fault.diagnostic parser.file) := by
  induction segments generalizing parser with
  | nil =>
    have here : parser.current = ending := faces.current_eq
    rw [parseStatements_of_ended (by rw [here, ended])]
    simp [faults]
  | @cons span spans following fits later ih =>
    obtain ⟨token, more, starts⟩ := List.exists_cons_of_ne_nil span.tokens_ne_nil
    have here : parser.current = token := by rw [faces.current_eq, starts]; rfl
    have goesOn : parser.current.kind ≠ .eof := by
      rw [here]
      exact inside token (by simp [starts])
    have read := reads_span span fits faces ended inside
    obtain ⟨statements, recorded⟩ := ih
      (fun token member => inside token (List.mem_append_right _ member)) _ read.faces
    have kept : parser.parseStatement.2.advance.file = parser.file := read.file_eq
    have unchanged : parser.parseStatement.2.advance.diagnostics
        = parser.parseStatement.2.diagnostics := rfl
    rw [parseStatements, if_neg goesOn]
    simp only
    constructor
    · rw [statements, read.statement, List.filterMap_cons]
      cases span.statement? with
      | none => rfl
      | some statement => rfl
    · rw [recorded, kept, unchanged, read.recorded, faults, ← later.tokens_eq, List.map_append,
        List.append_assoc]

end Parser

/-! ## Texts -/

theorem parse_segments_behind (before rest : List Char) (file : String) (pieces : List Piece)
    (last : List Char) (whole : Decomposes rest pieces last) (spans : List Span)
    (segments : Segments (Lexeme.ending.tokenBehind (before ++ rest)) (tokensBehind before pieces)
      spans) :
    (Parser.ofCursor (.behind before rest) file).parseProgram.1
        = .program (spans.filterMap Span.statement?) ∧
      (Parser.ofCursor (.behind before rest) file).parseProgram.2.diagnostics.toList
        = (faults (Lexeme.ending.tokenBehind (before ++ rest)) spans).map
            (Fault.diagnostic file) := by
  have faces := Parser.faces_ofCursor before rest file pieces last whole
  obtain ⟨statements, recorded⟩ := Parser.parseStatements_segments segments rfl
    (kind_ne_eof_of_mem whole before) _ faces
  exact ⟨congrArg Node.program statements, recorded⟩

theorem parse_segments (source file : String) (pieces : List Piece) (last : List Char)
    (whole : Decomposes source.toList pieces last) (spans : List Span)
    (segments : Segments (Lexeme.ending.tokenBehind source.toList) (tokensBehind [] pieces) spans) :
    (Parser.ofSource source file).parseProgram.1 = .program (spans.filterMap Span.statement?) ∧
      (Parser.ofSource source file).parseProgram.2.diagnostics.toList
        = (faults (Lexeme.ending.tokenBehind source.toList) spans).map (Fault.diagnostic file) :=
  parse_segments_behind [] source.toList file pieces last whole spans segments

theorem exists_parse (source : String) :
    ∃ (tokens : List Token) (ending : Token) (spans : List Span),
      tokenize source = tokens ++ [ending] ∧ Segments ending tokens spans ∧
        ∀ file, (Parser.ofSource source file).parseProgram.1
            = .program (spans.filterMap Span.statement?) ∧
          (Parser.ofSource source file).parseProgram.2.diagnostics.toList
            = (faults ending spans).map (Fault.diagnostic file) := by
  obtain ⟨pieces, last, whole⟩ := exists_decomposition source.toList
  obtain ⟨spans, segments⟩ :=
    exists_segments (Lexeme.ending.tokenBehind source.toList) rfl (tokensBehind [] pieces)
  exact ⟨_, _, spans, whole.tokenize_eq, segments,
    fun file => parse_segments source file pieces last whole spans segments⟩

/-- What a diagnostic tells about a fault in a text from `file`. -/
structure Fault.ReportedBy (file : String) (fault : Fault) (diagnostic : Diagnostic) : Prop where
  code : diagnostic.code? = some "P001"
  severity : diagnostic.severity = "error"
  message : diagnostic.message
    = s!"expected next token to be {fault.expected.name}, got {fault.found.kind.name} instead"
  location : diagnostic.location = ⟨file, fault.found.line, fault.found.column⟩

theorem Fault.reportedBy_diagnostic (file : String) (list : List Fault) :
    List.Forall₂ (Fault.ReportedBy file) list (list.map (Fault.diagnostic file)) := by
  induction list with
  | nil => exact .nil
  | cons fault list ih => exact .cons ⟨rfl, rfl, rfl, rfl⟩ ih

/-- A text parses to the statements of its only segmentation, and its diagnostics are the faults of
that segmentation. -/
theorem parse_unique_segmentation (source file : String) :
    ∃ (tokens : List Token) (ending : Token) (spans : List Span),
      tokenize source = tokens ++ [ending] ∧ ending.kind = .eof ∧
        (∀ token ∈ tokens, token.kind ≠ .eof) ∧
        Segments ending tokens spans ∧
        (∀ others, Segments ending tokens others → others = spans) ∧
        (Parser.ofSource source file).parseProgram.1
          = .program (spans.filterMap Span.statement?) ∧
        (Parser.ofSource source file).parseProgram.2.diagnostics.toList
          = (faults ending spans).map (Fault.diagnostic file) ∧
        List.Forall₂ (Fault.ReportedBy file) (faults ending spans)
          (Parser.ofSource source file).parseProgram.2.diagnostics.toList ∧
        parseSource source file
          = match faults ending spans with
            | [] => .ok (.program (spans.filterMap Span.statement?))
            | fault :: _ => .error (fault.diagnostic file) := by
  obtain ⟨pieces, last, whole⟩ := exists_decomposition source.toList
  have read := Cursor.tokens_behind [] source.toList pieces last whole
  obtain ⟨spans, segments⟩ :=
    exists_segments (Lexeme.ending.tokenBehind source.toList) rfl (tokensBehind [] pieces)
  obtain ⟨program, diagnostics⟩ := parse_segments source file pieces last whole spans segments
  refine ⟨tokensBehind [] pieces, Lexeme.ending.tokenBehind source.toList, spans,
    congrArg Prod.fst read, rfl, kind_ne_eof_of_mem whole [], segments,
    fun others other => other.unique segments, program, diagnostics, ?_, ?_⟩
  · rw [diagnostics]
    exact Fault.reportedBy_diagnostic file _
  · simp only [parseSource, program, diagnostics]
    cases faults (Lexeme.ending.tokenBehind source.toList) spans with
    | nil => rfl
    | cons fault later => rfl

end MonkeySyntax
