import MonkeySyntax.Node
import MonkeySyntax.TokenStream

/-!
# The parser

A parser looks at two consecutive tokens.  It passes over the right-hand sides of statements up to
the semicolon, and drops any token where no statement starts.  A malformed `let` is reported and
abandoned; parsing goes on behind the tokens that were read for it.

While the current token is not the end, sliding the window lowers `pending`; the loops end for that
reason.
-/

set_option autoImplicit false

namespace MonkeySyntax

structure Parser where
  cursor : Cursor
  file : String
  current : Token
  upcoming : Token
  diagnostics : Array Diagnostic
  events : Array Event
deriving DecidableEq, Repr

namespace Parser

/-- A parser over the tokens from the cursor on, two of which it reads at once. -/
def ofCursor (cursor : Cursor) (file : String) : Parser :=
  let first := cursor.next
  let second := first.2.next
  ⟨second.2, file, first.1, second.1, #[], #[.read first.1, .read second.1]⟩

def ofSource (source file : String) : Parser :=
  ofCursor (.ofSource source) file

def advance (parser : Parser) : Parser :=
  let step := parser.cursor.next
  { parser with
    cursor := step.2
    current := parser.upcoming
    upcoming := step.1
    events := parser.events.push (.read step.1) }

def currentIs (parser : Parser) (kind : Kind) : Bool :=
  parser.current.kind = kind

def upcomingIs (parser : Parser) (kind : Kind) : Bool :=
  parser.upcoming.kind = kind

def messages (parser : Parser) : List String :=
  parser.diagnostics.toList.map Diagnostic.message

def hasErrors (parser : Parser) : Bool :=
  !parser.diagnostics.isEmpty

def report (parser : Parser) (diagnostic : Diagnostic) : Parser :=
  { parser with
    diagnostics := parser.diagnostics.push diagnostic
    events := parser.events.push (.reported diagnostic) }

/-- Slides the window if the next token has the kind, and records a diagnostic otherwise. -/
def expect (parser : Parser) (kind : Kind) : Bool × Parser :=
  if parser.upcomingIs kind then (true, parser.advance)
  else (false, parser.report (.unexpectedToken kind parser.upcoming parser.file))

/-! ## Termination -/

def weight (token : Token) : Nat :=
  if token.kind = .eof then 0 else 1

/-- A bound for the slides that can still matter: the weight of the window and the length of the
text behind it. -/
def pending (parser : Parser) : Nat :=
  weight parser.current + weight parser.upcoming + parser.cursor.rest.length

theorem weight_next_add_le (cursor : Cursor) :
    weight cursor.next.1 + cursor.next.2.rest.length ≤ cursor.rest.length := by
  have shorter := cursor.length_rest_next_le
  by_cases ended : cursor.next.1.kind = .eof
  · rw [weight, if_pos ended]
    omega
  · have strictly := cursor.rest_next_lt ended
    rw [weight, if_neg ended]
    omega

theorem pending_advance (parser : Parser) :
    parser.advance.pending
      = weight parser.upcoming + weight parser.cursor.next.1
          + parser.cursor.next.2.rest.length :=
  rfl

theorem pending_advance_le (parser : Parser) : parser.advance.pending ≤ parser.pending := by
  have read := weight_next_add_le parser.cursor
  rw [pending_advance, pending]
  omega

theorem pending_advance_lt (parser : Parser) (more : parser.current.kind ≠ .eof) :
    parser.advance.pending < parser.pending := by
  have read := weight_next_add_le parser.cursor
  have one : weight parser.current = 1 := if_neg more
  rw [pending_advance, pending]
  omega

/-! ## Statements -/

def skipToSemicolon (parser : Parser) : Parser :=
  if parser.current.kind = .semicolon ∨ parser.current.kind = .eof then parser
  else skipToSemicolon parser.advance
termination_by parser.pending
decreasing_by exact pending_advance_lt parser (fun ended => by simp_all)

/-- A `let` statement, of which the parser has read the first word. -/
def parseLet (parser : Parser) : Option Node × Parser :=
  let anchor := parser.current
  let named := parser.expect .ident
  if named.1 then
    let name := Node.identifier named.2.current named.2.current.text
    let assigned := named.2.expect .assign
    if assigned.1 then
      (some (.letStatement anchor name none), assigned.2.skipToSemicolon)
    else (none, assigned.2)
  else (none, named.2)

def parseReturn (parser : Parser) : Option Node × Parser :=
  (some (.returnStatement parser.current none), parser.skipToSemicolon)

def skipUnsupported (parser : Parser) : Option Node × Parser :=
  (none, { parser with events := parser.events.push (.skipped parser.current) })

def parseStatement (parser : Parser) : Option Node × Parser :=
  if parser.currentIs .letWord then parser.parseLet
  else if parser.currentIs .returnWord then parser.parseReturn
  else parser.skipUnsupported

theorem pending_skipToSemicolon_le (parser : Parser) :
    parser.skipToSemicolon.pending ≤ parser.pending := by
  fun_induction skipToSemicolon parser with
  | case1 parser stops => exact Nat.le_refl _
  | case2 parser goes ih => exact Nat.le_trans ih (pending_advance_le parser)

theorem pending_expect_le (parser : Parser) (kind : Kind) :
    (parser.expect kind).2.pending ≤ parser.pending := by
  unfold expect
  split
  · exact pending_advance_le parser
  · exact Nat.le_refl _

theorem pending_parseLet_lt (parser : Parser) (more : parser.current.kind ≠ .eof) :
    parser.parseLet.2.advance.pending < parser.pending := by
  unfold parseLet
  by_cases named : parser.upcomingIs .ident = true
  · have slid : parser.expect .ident = (true, parser.advance) := if_pos named
    have strictly := pending_advance_lt parser more
    have later := pending_expect_le parser.advance .assign
    rw [slid]
    simp only [if_true]
    split
    · have skipped := pending_skipToSemicolon_le (parser.advance.expect .assign).2
      have last := pending_advance_le (parser.advance.expect .assign).2.skipToSemicolon
      simp only
      omega
    · have last := pending_advance_le (parser.advance.expect .assign).2
      simp only
      omega
  · have kept : parser.expect .ident
        = (false, parser.report (.unexpectedToken .ident parser.upcoming parser.file)) :=
      if_neg named
    rw [kept]
    exact pending_advance_lt (parser.report _) more

theorem pending_parseReturn_lt (parser : Parser) (more : parser.current.kind ≠ .eof) :
    parser.parseReturn.2.advance.pending < parser.pending := by
  unfold parseReturn
  rw [skipToSemicolon]
  split
  · exact pending_advance_lt parser more
  · exact Nat.lt_of_le_of_lt (pending_advance_le _)
      (Nat.lt_of_le_of_lt (pending_skipToSemicolon_le _) (pending_advance_lt parser more))

theorem pending_parseStatement_lt (parser : Parser) (more : parser.current.kind ≠ .eof) :
    parser.parseStatement.2.advance.pending < parser.pending := by
  unfold parseStatement
  split
  · exact pending_parseLet_lt parser more
  · split
    · exact pending_parseReturn_lt parser more
    · exact pending_advance_lt parser more

/-! ## Programs -/

def parseStatements (parser : Parser) : List Node × Parser :=
  if parser.current.kind = .eof then ([], parser)
  else
    let parsed := parser.parseStatement
    let later := parseStatements parsed.2.advance
    (parsed.1.toList ++ later.1, later.2)
termination_by parser.pending
decreasing_by exact pending_parseStatement_lt parser (by assumption)

def parseProgram (parser : Parser) : Node × Parser :=
  (.program parser.parseStatements.1, parser.parseStatements.2)

end Parser

/-- The program that a text from `file` holds, unless something in it was reported; then the first
diagnostic. -/
def parseSource (source file : String) : Except Diagnostic Node :=
  let parsed := (Parser.ofSource source file).parseProgram
  match parsed.2.diagnostics.toList with
  | [] => .ok parsed.1
  | first :: _ => .error first

end MonkeySyntax
