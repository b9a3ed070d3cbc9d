import MonkeySyntax.Parser

/-!
# Sessions with a parser

The operations of a caller, among them reading a token from the text behind the window.
-/

set_option autoImplicit false

namespace MonkeySyntax.Parser

inductive Step
  | parseProgram
  | parseStatement
  | advance
  | skipToSemicolon
  | expect (kind : Kind)
  | currentIs (kind : Kind)
  | upcomingIs (kind : Kind)
  | readBehind
  | messages
  | diagnostics
  | hasErrors
  /-- Empty the lists that were handed out, which are the caller's own. -/
  | clearHandedOut
deriving DecidableEq, Repr

inductive Reply
  | done
  | node (node? : Option Node)
  | truth (value : Bool)
  | token (token : Token)
  | messages (messages : List String)
  | diagnostics (diagnostics : List Diagnostic)
deriving DecidableEq, Repr

/-- Reads one token from the text behind the window, for somebody else than the parser. -/
def readBehind (parser : Parser) : Token × Parser :=
  (parser.cursor.next.1, { parser with cursor := parser.cursor.next.2 })

def step (parser : Parser) : Step → Reply × Parser
  | .parseProgram => (.node parser.parseProgram.1, parser.parseProgram.2)
  | .parseStatement => (.node parser.parseStatement.1, parser.parseStatement.2)
  | .advance => (.done, parser.advance)
  | .skipToSemicolon => (.done, parser.skipToSemicolon)
  | .expect kind => (.truth (parser.expect kind).1, (parser.expect kind).2)
  | .currentIs kind => (.truth (parser.currentIs kind), parser)
  | .upcomingIs kind => (.truth (parser.upcomingIs kind), parser)
  | .readBehind => (.token parser.readBehind.1, parser.readBehind.2)
  | .messages => (.messages parser.messages, parser)
  | .diagnostics => (.diagnostics parser.diagnostics.toList, parser)
  | .hasErrors => (.truth parser.hasErrors, parser)
  | .clearHandedOut => (.done, parser)

def after : Parser → List Step → Parser
  | parser, [] => parser
  | parser, step :: steps => after (parser.step step).2 steps

def session : Parser → List Step → List (Reply × Parser)
  | _, [] => []
  | parser, step :: steps =>
    let outcome := parser.step step
    outcome :: session outcome.2 steps

end MonkeySyntax.Parser
