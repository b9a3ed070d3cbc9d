import MonkeySyntax.Proofs.Parser.Work

/-!
# Sharing a text with a parser

Somebody else may read tokens from the text that a parser works on.  A history, kept beside the run,
says who took which token; `shares_step` shows that one step keeps parser and others in agreement
with it, `shares_after` that any row of steps does.
-/

set_option autoImplicit false

namespace MonkeySyntax

/-! ## Histories -/

/-- Who took a token: the parser, or somebody who read it behind the parser's window. -/
inductive Taker
  | parser
  | caller
deriving DecidableEq, Repr

/-- The tokens that went to `taker` when the tokens of the stream were taken in this order. -/
def dealtTo (taker : Taker) : List Taker → (Nat → Token) → List Token
  | [], _ => []
  | first :: history, stream =>
    let later := dealtTo taker history (fun count => stream (count + 1))
    if first = taker then stream 0 :: later else later

theorem dealtTo_append (taker : Taker) (history more : List Taker) (stream : Nat → Token) :
    dealtTo taker (history ++ more) stream
      = dealtTo taker history stream
          ++ dealtTo taker more (fun count => stream (history.length + count)) := by
  induction history generalizing stream with
  | nil => simp [dealtTo]
  | cons first history ih =>
    have shifted : (fun count => stream (history.length + count + 1))
        = fun count => stream ((first :: history).length + count) := by
      funext count
      rw [List.length_cons, Nat.add_right_comm]
    rw [List.cons_append, dealtTo, dealtTo, ih]
    simp only [shifted]
    split
    · rfl
    · rfl

theorem dealtTo_replicate_self (taker : Taker) (count : Nat) (stream : Nat → Token) :
    dealtTo taker (List.replicate count taker) stream = (List.range count).map stream := by
  induction count generalizing stream with
  | zero => rfl
  | succ count ih =>
    rw [List.replicate_succ, dealtTo, ih, List.range_succ_eq_map, List.map_cons, List.map_map]
    simp [Function.comp_def]

theorem dealtTo_replicate_of_ne {taker first : Taker} (apart : first ≠ taker) (count : Nat)
    (stream : Nat → Token) : dealtTo taker (List.replicate count first) stream = [] := by
  induction count generalizing stream with
  | zero => rfl
  | succ count ih =>
    rw [List.replicate_succ, dealtTo, ih]
    simp [apart]

namespace Parser

def Reply.token? : Reply → Option Token
  | .token read => some read
  | .done | .node _ | .truth _ | .messages _ | .diagnostics _ => none

/-- The tokens that the others read while the parser goes through the steps. -/
def handedOut (parser : Parser) (steps : List Step) : List Token :=
  (parser.session steps).filterMap (fun outcome => outcome.1.token?)

def takersOf (parser : Parser) (operation : Step) : List Taker :=
  if operation = .readBehind then [.caller]
  else
    List.replicate ((parser.step operation).2.taken.length - parser.taken.length) .parser

def takers : Parser → List Step → List Taker
  | _, [] => []
  | parser, operation :: steps =>
    parser.takersOf operation ++ takers (parser.step operation).2 steps

theorem takers_append (parser : Parser) (steps later : List Step) :
    parser.takers (steps ++ later)
      = parser.takers steps ++ (parser.after steps).takers later := by
  induction steps generalizing parser with
  | nil => rfl
  | cons operation steps ih =>
    rw [List.cons_append, takers, takers, ih, List.append_assoc]
    rfl

/-- The parser has taken what the history gives to it, the others have been handed the rest, and
the text goes on where the history ends. -/
structure Shares (stream : Nat → Token) (history : List Taker) (handed : List Token)
    (parser : Parser) : Prop where
  taken : parser.taken = dealtTo .parser history stream
  handed : handed = dealtTo .caller history stream
  ahead : ∀ count, parser.cursor.pull count = stream (history.length + count)
  window : parser.EndsInWindow

variable {stream : Nat → Token} {history : List Taker} {handed : List Token} {parser : Parser}

theorem shares_readBehind (shares : Shares stream history handed parser) :
    Shares stream (history ++ [.caller]) (handed ++ [parser.readBehind.1])
      parser.readBehind.2 where
  taken := by
    rw [dealtTo_append, ← shares.taken]
    simp [dealtTo, readBehind, Parser.taken]
  handed := by
    have first : parser.cursor.next.1 = stream history.length := shares.ahead 0
    rw [dealtTo_append, ← shares.handed]
    simp [dealtTo, readBehind, first]
  ahead := by
    intro count
    have later := shares.ahead (count + 1)
    rw [List.length_append, List.length_singleton, Nat.add_assoc, Nat.add_comm 1]
    exact later
  window := shares.window

theorem shares_works {later : Parser} (shares : Shares stream history handed parser)
    (worked : parser.Works later) :
    Shares stream
      (history ++ List.replicate (later.taken.length - parser.taken.length) .parser) handed
      later := by
  obtain ⟨count, cursor, taken, _⟩ := worked.advanced
  have size : later.taken.length - parser.taken.length = count := by
    rw [taken, List.length_append, List.length_map, List.length_range]
    omega
  have read : (fun index => stream (history.length + index)) = parser.cursor.pull :=
    funext fun index => (shares.ahead index).symm
  rw [size]
  refine ⟨?_, ?_, ?_, stable_endsInWindow.works worked shares.window⟩
  · rw [dealtTo_append, dealtTo_replicate_self, read, taken, shares.taken]
  · rw [dealtTo_append, dealtTo_replicate_of_ne (by decide), List.append_nil]
    exact shares.handed
  · intro index
    rw [cursor, Cursor.pull_skipTokens, shares.ahead, List.length_append, List.length_replicate,
      Nat.add_assoc]

theorem token?_step_of_ne (parser : Parser) (operation : Step) (own : operation ≠ .readBehind) :
    (parser.step operation).1.token? = none := by
  cases operation with
  | readBehind => contradiction
  | parseProgram | parseStatement | advance | skipToSemicolon | expect | currentIs | upcomingIs
  | messages | diagnostics | hasErrors | clearHandedOut => rfl

theorem shares_step (shares : Shares stream history handed parser) (operation : Step) :
    Shares stream (history ++ parser.takersOf operation)
      (handed ++ (parser.step operation).1.token?.toList) (parser.step operation).2 := by
  by_cases behind : operation = .readBehind
  · subst behind
    exact shares_readBehind shares
  · rw [takersOf, if_neg behind, token?_step_of_ne parser operation behind, Option.toList_none,
      List.append_nil]
    exact shares_works shares (works_step parser operation behind)

theorem handedOut_cons (parser : Parser) (operation : Step) (steps : List Step) :
    parser.handedOut (operation :: steps)
      = (parser.step operation).1.token?.toList
          ++ (parser.step operation).2.handedOut steps := by
  rw [handedOut, session, List.filterMap_cons]
  cases (parser.step operation).1.token? with
  | none => rfl
  | some token => rfl

theorem shares_after (shares : Shares stream history handed parser) (steps : List Step) :
    Shares stream (history ++ parser.takers steps) (handed ++ parser.handedOut steps)
      (parser.after steps) := by
  induction steps generalizing parser history handed with
  | nil =>
    rw [takers, handedOut, session, List.filterMap_nil, List.append_nil, List.append_nil]
    exact shares
  | cons operation steps ih =>
    have later := ih (shares_step shares operation)
    rwa [List.append_assoc, List.append_assoc, ← handedOut_cons] at later

/-! ## From the beginning -/

def behindSkipped (source file : String) (skip : Nat) : Parser :=
  ofCursor ((Cursor.ofSource source).skipTokens skip) file

def historyOf (source file : String) (skip : Nat) (steps : List Step) : List Taker :=
  List.replicate skip .caller ++ [.parser, .parser]
    ++ (behindSkipped source file skip).takers steps

theorem shares_behindSkipped (source file : String) (skip : Nat) :
    Shares (endless (tokenize source)) (List.replicate skip .caller ++ [.parser, .parser])
      ((List.range skip).map (endless (tokenize source))) (behindSkipped source file skip) := by
  have pulled (count : Nat) : ((Cursor.ofSource source).skipTokens skip).pull count
      = endless (tokenize source) (skip + count) := by
    rw [Cursor.pull_skipTokens, Cursor.pull_ofSource]
  have taken : (behindSkipped source file skip).taken
      = [endless (tokenize source) skip, endless (tokenize source) (skip + 1)] := by
    rw [← pulled 1, ← Nat.add_zero skip, ← pulled 0]
    rfl
  refine ⟨?_, ?_, ?_, ?_⟩
  · rw [taken, dealtTo_append, dealtTo_replicate_of_ne (by decide), List.length_replicate]
    rfl
  · rw [dealtTo_append, dealtTo_replicate_self]
    simp [dealtTo]
  · intro count
    have later : (behindSkipped source file skip).cursor.pull count
        = endless (tokenize source) (skip + (2 + count)) := by
      rw [← pulled, ← Cursor.pull_skipTokens]
      rfl
    rw [later, List.length_append, List.length_replicate, Nat.add_assoc]
    rfl
  · exact ⟨[], rfl⟩

theorem taken_prefix_history (source file : String) (skip : Nat) (steps later : List Step) :
    ((behindSkipped source file skip).after steps).taken
      <+: dealtTo .parser (historyOf source file skip (steps ++ later))
        (endless (tokenize source)) := by
  have shares := shares_after (shares_behindSkipped source file skip) steps
  rw [historyOf, takers_append, ← List.append_assoc, dealtTo_append, shares.taken]
  exact List.prefix_append _ _

/-- The window is two neighbours of the list, at the parser's place. -/
structure WindowIn (parser : Parser) (kept : List Token) : Prop where
  current : kept[parser.place]? = some parser.current
  upcoming : kept[parser.place + 1]? = some parser.upcoming

theorem windowIn_of_prefix (parser : Parser) (window : parser.EndsInWindow) (kept : List Token)
    (initial : parser.taken <+: kept) : WindowIn parser kept := by
  obtain ⟨earlier, taken⟩ := window
  obtain ⟨more, rfl⟩ := initial
  have place : parser.place = earlier.length := by simp [Parser.place, taken]
  rw [taken]
  exact ⟨by simp [place], by simp [place]⟩

/-- In whatever order the steps of a parser and readings behind its window come, each token of the
text goes to one of them, and the window is two neighbours among the tokens that the readings of the
whole run leave, at a place that no step moves back. -/
theorem window_after_steps (source file : String) (skip : Nat) (steps later : List Step) :
    Shares (endless (tokenize source)) (historyOf source file skip steps)
        ((List.range skip).map (endless (tokenize source))
          ++ (behindSkipped source file skip).handedOut steps)
        ((behindSkipped source file skip).after steps) ∧
      WindowIn ((behindSkipped source file skip).after steps)
        (dealtTo .parser (historyOf source file skip (steps ++ later))
          (endless (tokenize source))) ∧
      StepLaw ((behindSkipped source file skip).after steps) := by
  have shares := shares_after (shares_behindSkipped source file skip) steps
  have initial := taken_prefix_history source file skip steps later
  exact ⟨shares, windowIn_of_prefix _ shares.window _ initial,
    stepLaw_of_endsInWindow _ shares.window⟩

end Parser

end MonkeySyntax
