import MonkeySyntax.Proofs.CommandLine.Agreement
import MonkeySyntax.Proofs.Parser.Trace

/-!
# What a parse logs

At the lowest level a parse writes a record for every entry of its trace, before everything else.
-/

set_option autoImplicit false

namespace MonkeySyntax.CommandLine

/-- The line that the lowest level shows for an event. -/
def writtenLine : Event → String
  | .read token =>
    "DEBUG monkey.lexer.lexer: "
      ++ (token.kind.name ++ "(" ++ Text.quoted token.text ++ ")"
        ++ " at " ++ toString token.line ++ ":" ++ toString token.column)
      ++ "\n"
  | .skipped token =>
    "DEBUG monkey.parser.parser: "
      ++ ("skipping unsupported token " ++ (token.kind.name ++ "(" ++ Text.quoted token.text ++ ")")
        ++ " at " ++ toString token.line ++ ":" ++ toString token.column)
      ++ "\n"
  | .reported diagnostic =>
    "DEBUG monkey.parser.parser: "
      ++ (diagnostic.message ++ " at "
        ++ (diagnostic.location.file ++ ":" ++ toString diagnostic.location.line
          ++ ":" ++ toString diagnostic.location.column))
      ++ "\n"

theorem line_ofEvent (event : Event) : (Record.ofEvent event).line = writtenLine event := by
  cases event with
  | read token => rfl
  | skipped token => rfl
  | reported diagnostic => rfl

theorem shownRecords_debug (events : List Event) :
    shownRecords .debug (events.map Record.ofEvent) = String.join (events.map writtenLine) := by
  have shown : ∀ record ∈ events.map Record.ofEvent,
      decide (Level.debug.rank ≤ record.level.rank) = true := by
    intro record member
    obtain ⟨event, _, rfl⟩ := List.mem_map.mp member
    rfl
  rw [shownRecords, List.filter_eq_self.mpr shown, List.map_map]
  exact congrArg String.join (List.map_congr_left (fun event _ => line_ofEvent event))

/-- The loud outcome is the quiet one with the records of the events before its report. -/
structure Louder (events : List Event) (loud quiet : Outcome) : Prop where
  status : loud.status = quiet.status
  stdout : loud.stdout = quiet.stdout
  stderr : loud.stderr = String.join (events.map writtenLine) ++ quiet.stderr

theorem parseText_louder {level : Level} (quiet : level ≠ .debug) (file source : String) :
    Louder (Parser.ofSource source file).parseProgram.2.events.toList
      (parseText .debug file source) (parseText level file source) := by
  refine ⟨rfl, rfl, ?_⟩
  simp only [parseText, shownRecords_debug, shownRecords_events quiet, String.empty_append]

/-- The records of a parse are those of a trace: each token of the text once and then the end again,
and behind a token of the text at most one remark, which is about this token or about the one before
it.  What is passed over and what is reported are the tokens that start no statement and the faults,
all of them and in order.  Only the lowest level shows the records, and nothing else depends on the
level. -/
theorem parse_records_in_order (source file : String) :
    (∃ (tokens : List Token) (ending : Token) (spans : List Span) (trace : List TraceEntry),
      tokenize source = tokens ++ [ending] ∧ Segments ending tokens spans ∧
        (Parser.ofSource source file).parseProgram.2.events.toList
          = trace.flatMap (TraceEntry.events file) ∧
        trace.map TraceEntry.token
          = tokenize source ++ List.replicate (extraEnds spans) ending ∧
        (∀ first ∈ trace.head?, first.remark? = none) ∧
        (∀ entry ∈ trace.drop (tokenize source).length, entry.remark? = none) ∧
        List.IsChain TraceEntry.Follows trace ∧
        (trace.filterMap TraceEntry.remark?).filterMap Remark.skipped?
          = spans.filterMap Span.unsupported? ∧
        (trace.filterMap TraceEntry.remark?).filterMap Remark.fault? = faults ending spans ∧
        (Parser.ofSource source file).parseProgram.2.diagnostics.toList
          = (faults ending spans).map (Fault.diagnostic file)) ∧
      (∀ event, (Record.ofEvent event).line = writtenLine event) ∧
      (∀ (tree : FileTree) (start : Start) (stdin : List UInt8) (loudWords quietWords : List String)
          (level : Level), level ≠ .debug → tree.readSource file = .ok source →
        plan loudWords = .perform .debug (.parse file) →
        plan quietWords = .perform level (.parse file) →
        ∃ loud quiet, runIn tree start stdin loudWords = .ok loud ∧
          runIn tree start stdin quietWords = .ok quiet ∧
          Louder (Parser.ofSource source file).parseProgram.2.events.toList loud quiet ∧
          quiet.stderr = String.join
            ((Parser.ofSource source file).parseProgram.2.diagnostics.toList.map
              Diagnostic.text)) ∧
      (file.toList.head? ≠ some '-' → ∀ level : Level,
        plan ["--log-level", level.name, "parse", file] = .perform level (.parse file)) := by
  refine ⟨?_, line_ofEvent, ?_, fun undashed level => plan_parse_at level undashed⟩
  · obtain ⟨tokens, ending, spans, all, _, _, segments, events, recorded⟩ :=
      exists_trace source file
    refine ⟨tokens, ending, spans, traceOf ending spans, all, segments, events, ?_, ?_,
      ?_, isChain_traceOf ending spans, ?_, ?_, recorded⟩
    · rw [map_token_traceOf, all, segments.tokens_eq]
    · rintro first ⟨rfl⟩
      rfl
    · intro entry member
      rw [all, segments.tokens_eq, List.length_append, List.length_singleton, drop_traceOf] at member
      rw [List.eq_of_mem_replicate member]
      rfl
    · rw [filterMap_remark?_traceOf, filterMap_skipped?_remarksOf]
    · rw [filterMap_remark?_traceOf, filterMap_fault?_remarksOf]
  · intro tree start stdin loudWords quietWords level silent read loudly quietly
    rw [FileTree.readSource] at read
    refine ⟨parseText .debug file source, parseText level file source, ?_, ?_,
      parseText_louder silent file source, ?_⟩
    · rw [runIn, loudly, Plan.run, Command.run, runOnFile, read]
    · rw [runIn, quietly, Plan.run, Command.run, runOnFile, read]
    · simp only [parseText, shownRecords_events silent, String.empty_append]

/-- A name is passed over, and `let` breaks off at the end. -/
theorem broken_line_recorded :
    let tree : FileTree := ⟨[(["a"], .file (Text.Utf8.encode "x let".toList))]⟩
    ∃ loud quiet,
      runIn tree .whole [] ["--log-level", "DEBUG", "parse", "a"] = .ok loud ∧
        runIn tree .whole [] ["--log-level", "ERROR", "parse", "a"] = .ok quiet ∧
        loud.status = quiet.status ∧ loud.stdout = quiet.stdout ∧
        loud.stderr = String.join [
          "DEBUG monkey.lexer.lexer: IDENT('x') at 1:1\n",
          "DEBUG monkey.lexer.lexer: LET('let') at 1:3\n",
          "DEBUG monkey.parser.parser: skipping unsupported token IDENT('x') at 1:1\n",
          "DEBUG monkey.lexer.lexer: EOF('') at 1:5\n",
          "DEBUG monkey.parser.parser: expected next token to be IDENT, got EOF instead at a:1:5\n",
          "DEBUG monkey.lexer.lexer: EOF('') at 1:5\n"] ++ quiet.stderr := by
  intro tree
  have stored : tree.Stores "a" "x let" := ⟨by decide, (FileTree.openFile_alone _).1⟩
  have read : tree.readSource "a" = .ok "x let" := stored.readSource_eq
  have undashed : "a".toList.head? ≠ some '-' := by decide
  obtain ⟨_, _, runs, asked⟩ := parse_records_in_order "x let" "a"
  obtain ⟨loud, quiet, loudly, quietly, louder, _⟩ :=
    runs tree .whole [] _ _ .error (by decide) read (asked undashed .debug) (asked undashed .error)
  refine ⟨loud, quiet, loudly, quietly, louder.status, louder.stdout, ?_⟩
  rw [louder.stderr]
  apply congrArg (· ++ quiet.stderr)
  decide +kernel

end MonkeySyntax.CommandLine
