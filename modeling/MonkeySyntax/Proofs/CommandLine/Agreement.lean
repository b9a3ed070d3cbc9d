import MonkeySyntax.CommandLine.Run
import MonkeySyntax.Proofs.CommandLine.Plan
import MonkeySyntax.Proofs.Diagnostic.Strict
import MonkeySyntax.Proofs.Node.Printer
import MonkeySyntax.Proofs.SourceFile
import MonkeySyntax.Proofs.TokenStream.Pulls

/-!
# Commands on files agree with the library

A command on a file ends in one of three ways, and they are the three ways in which the library
reads the file: it gives a value, finds an error in the text, or finds no text.
-/

set_option autoImplicit false

namespace MonkeySyntax.CommandLine

/-! ## Records -/

theorem shownRecords_events {level : Level} (quiet : level ≠ .debug) (events : List Event) :
    shownRecords level (events.map Record.ofEvent) = "" := by
  have below : ∀ record ∈ events.map Record.ofEvent,
      ¬ decide (level.rank ≤ record.level.rank) = true := by
    intro record member
    obtain ⟨event, _, rfl⟩ := List.mem_map.mp member
    cases level with
    | debug => contradiction
    | info | warning | error => simp [Record.ofEvent, Level.rank]
  rw [shownRecords, List.filter_eq_nil_iff.mpr below]
  rfl

namespace Agrees

variable {ε α : Type} {start : Start} {path : String} {onValue : α → Outcome → Prop}
  {onError : ε → Outcome → Prop} {outcome : Outcome}

end Agrees

/-! ## Parsing -/

theorem parseText_eq {level : Level} (quiet : level ≠ .debug) (file source : String) {text : String}
    (rendered : (Parser.ofSource source file).parseProgram.1.render = .ok text) :
    parseText level file source
      = ⟨if (Parser.ofSource source file).parseProgram.2.hasErrors then 1 else 0,
          text ++ "\n",
          String.join ((Parser.ofSource source file).parseProgram.2.diagnostics.toList.map
            Diagnostic.text)⟩ := by
  simp [parseText, shownRecords_events quiet, renderedText, rendered, statusErrors, statusOk]

section Runs

variable (tree : FileTree) (start : Start) {path : String} (nullFree : '\x00' ∉ path.toList)

include nullFree

variable (stdin : List UInt8)

end Runs

end MonkeySyntax.CommandLine
