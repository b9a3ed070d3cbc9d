import MonkeySyntax.Proofs.Parser.Outcome

/-!
# Moving tokens

When every token is replaced by one of the same kind and text, the spans, the statements and the
faults change in nothing but their tokens.
-/

set_option autoImplicit false

namespace MonkeySyntax

structure KeepsLexeme (move : Token → Token) : Prop where
  kind_eq : ∀ token, (move token).kind = token.kind
  text_eq : ∀ token, (move token).text = token.text

/-! ## Trees -/

namespace Node

mutual
/-- Replaces every token on which a node of the tree is anchored. -/
def relocate (move : Token → Token) : Node → Node
  | .program statements => .program (relocateAll move statements)
  | .letStatement anchor name value? =>
    .letStatement (move anchor) (relocate move name) (relocateSlot move value?)
  | .returnStatement anchor value? => .returnStatement (move anchor) (relocateSlot move value?)
  | .identifier anchor value => .identifier (move anchor) value
  | .foreign form text => .foreign form text

def relocateAll (move : Token → Token) : List Node → List Node
  | [] => []
  | node :: nodes => relocate move node :: relocateAll move nodes

def relocateSlot (move : Token → Token) : Option Node → Option Node
  | none => none
  | some node => some (relocate move node)
end

theorem relocateAll_eq_map (move : Token → Token) (nodes : List Node) :
    relocateAll move nodes = nodes.map (relocate move) := by
  induction nodes with
  | nil => rfl
  | cons node nodes ih => rw [relocateAll, ih, List.map_cons]

end Node

/-! ## Spans -/

def Span.relocate (move : Token → Token) : Span → Span
  | .letStatement anchor name assign body stop? =>
    .letStatement (move anchor) (move name) (move assign) (body.map move) (stop?.map move)
  | .returnStatement anchor body stop? =>
    .returnStatement (move anchor) (body.map move) (stop?.map move)
  | .nameless anchor => .nameless (move anchor)
  | .unassigned anchor name => .unassigned (move anchor) (move name)
  | .unsupported token => .unsupported (move token)

def Fault.relocate (move : Token → Token) (fault : Fault) : Fault :=
  ⟨fault.expected, move fault.found⟩

theorem headD_map (move : Token → Token) (list : List Token) (ending : Token) :
    (list.map move).headD (move ending) = move (list.headD ending) := by
  cases list with
  | nil => rfl
  | cons token list => rfl

theorem Span.tokens_relocate (move : Token → Token) (span : Span) :
    (span.relocate move).tokens = span.tokens.map move := by
  cases span with
  | letStatement anchor name assign body stop? => cases stop? <;> simp [relocate, tokens]
  | returnStatement anchor body stop? => cases stop? <;> simp [relocate, tokens]
  | nameless | unassigned | unsupported => rfl

theorem PassedOver.relocate {move : Token → Token} (keeps : KeepsLexeme move) {body : List Token}
    {stop? : Option Token} {following : List Token} (passed : PassedOver body stop? following) :
    PassedOver (body.map move) (stop?.map move) (following.map move) where
  body_kind := by
    intro token member
    obtain ⟨original, present, rfl⟩ := List.mem_map.mp member
    rw [keeps.kind_eq]
    exact passed.body_kind original present
  stop_kind := by
    intro token member
    obtain ⟨original, present, rfl⟩ := Option.map_eq_some_iff.mp member
    rw [keeps.kind_eq]
    exact passed.stop_kind original present
  open_end := by
    intro ended
    rw [passed.open_end (Option.map_eq_none_iff.mp ended), List.map_nil]

theorem Span.Fits.relocate {move : Token → Token} (keeps : KeepsLexeme move) {span : Span}
    {following : List Token} {ending : Token} (fits : span.Fits following ending) :
    (span.relocate move).Fits (following.map move) (move ending) := by
  cases span with
  | letStatement anchor name assign body stop? =>
    obtain ⟨isLet, isName, isAssign, passed⟩ := fits
    exact ⟨by rw [keeps.kind_eq, isLet], by rw [keeps.kind_eq, isName],
      by rw [keeps.kind_eq, isAssign], passed.relocate keeps⟩
  | returnStatement anchor body stop? =>
    obtain ⟨isReturn, passed⟩ := fits
    exact ⟨by rw [keeps.kind_eq, isReturn], passed.relocate keeps⟩
  | nameless anchor =>
    obtain ⟨isLet, noName⟩ := fits
    refine ⟨by rw [keeps.kind_eq, isLet], ?_⟩
    rw [headD_map, keeps.kind_eq]
    exact noName
  | unassigned anchor name =>
    obtain ⟨isLet, isName, noAssign⟩ := fits
    refine ⟨by rw [keeps.kind_eq, isLet], by rw [keeps.kind_eq, isName], ?_⟩
    rw [headD_map, keeps.kind_eq]
    exact noAssign
  | unsupported token =>
    obtain ⟨notLet, notReturn⟩ := fits
    refine ⟨?_, ?_⟩
    · rw [keeps.kind_eq]
      exact notLet
    · rw [keeps.kind_eq]
      exact notReturn

theorem Segments.relocate {move : Token → Token} (keeps : KeepsLexeme move) {ending : Token}
    {list : List Token} {spans : List Span} (segments : Segments ending list spans) :
    Segments (move ending) (list.map move) (spans.map (Span.relocate move)) := by
  induction segments with
  | nil => exact .nil
  | @cons span spans following fits later ih =>
    rw [List.map_append, ← Span.tokens_relocate, List.map_cons]
    exact .cons (fits.relocate keeps) ih

theorem Span.statement?_relocate {move : Token → Token} (keeps : KeepsLexeme move) (span : Span) :
    (span.relocate move).statement? = span.statement?.map (Node.relocate move) := by
  cases span with
  | letStatement anchor name assign body stop? =>
    simp [Span.relocate, statement?, Node.relocate, Node.relocateSlot, keeps.text_eq]
  | returnStatement anchor body stop? =>
    simp [Span.relocate, statement?, Node.relocate, Node.relocateSlot]
  | nameless | unassigned | unsupported => rfl

theorem statements_relocate {move : Token → Token} (keeps : KeepsLexeme move)
    (spans : List Span) :
    (spans.map (Span.relocate move)).filterMap Span.statement?
      = (spans.filterMap Span.statement?).map (Node.relocate move) := by
  induction spans with
  | nil => rfl
  | cons span spans ih =>
    rw [List.map_cons, List.filterMap_cons, List.filterMap_cons, span.statement?_relocate keeps]
    cases span.statement? with
    | none => exact ih
    | some statement => simp [ih]

theorem Span.fault?_relocate (move : Token → Token) (span : Span) (following : List Token)
    (ending : Token) :
    (span.relocate move).fault? (following.map move) (move ending)
      = (span.fault? following ending).map (Fault.relocate move) := by
  cases span with
  | letStatement | returnStatement | unsupported => rfl
  | nameless | unassigned => simp [Span.relocate, fault?, Fault.relocate]

theorem faults_relocate (move : Token → Token) (ending : Token) (spans : List Span) :
    faults (move ending) (spans.map (Span.relocate move))
      = (faults ending spans).map (Fault.relocate move) := by
  induction spans with
  | nil => rfl
  | cons span spans ih =>
    have following : (spans.map (Span.relocate move)).flatMap Span.tokens
        = (spans.flatMap Span.tokens).map move := by
      rw [List.flatMap_map, List.map_flatMap]
      simp only [Span.tokens_relocate]
    rw [List.map_cons, faults, faults, ih, following, Span.fault?_relocate, List.map_append]
    cases span.fault? (spans.flatMap Span.tokens) ending with
    | none => rfl
    | some fault => rfl

end MonkeySyntax
