import MonkeySyntax.Proofs.Parser.Outcome
import MonkeySyntax.Proofs.TokenStream.Spot

/-!
# Where statements and diagnostics stand

Two neighbouring tokens may share a place only where the first is a single character, and between
two diagnostics there always stands the `let` of the second.
-/

set_option autoImplicit false

namespace MonkeySyntax

/-! ## Tokens in order -/

/-- A token is reported before a later one, or where that one is if the later one leans left and
the first is a single character. -/
def Token.Precedes (first second : Token) : Prop :=
  first.place < second.place ∨
    (first.place = second.place ∧ second.kind.LeansLeft ∧ first.text.length = 1)

namespace Token.Precedes

variable {first second : Token}

theorem place_le (precedes : first.Precedes second) : first.place ≤ second.place := by
  rcases precedes with before | ⟨same, _⟩
  · exact before.le
  · exact same.le

theorem place_lt_of_upright (precedes : first.Precedes second)
    (upright : ¬ second.kind.LeansLeft) : first.place < second.place := by
  rcases precedes with before | ⟨_, leans, _⟩
  · exact before
  · exact absurd leans upright

theorem place_lt_of_long (precedes : first.Precedes second) (long : first.text.length ≠ 1) :
    first.place < second.place := by
  rcases precedes with before | ⟨_, _, single⟩
  · exact before
  · exact absurd single long

end Token.Precedes

theorem Lexeme.Form.precedes {first : Lexeme} (form : first.Form) (before more : List Char)
    (second : Lexeme) :
    (first.tokenBehind before).Precedes (second.tokenBehind (before ++ (first.chars ++ more))) := by
  have nonempty : first.chars ++ more ≠ [] := List.append_ne_nil_of_left_ne_nil form.nonempty more
  obtain ⟨ordered, shared⟩ := place_append before _ nonempty first second
  rcases ordered.lt_or_eq with before | same
  · exact Or.inl before
  · obtain ⟨_, single, leans, _⟩ := shared.mp same
    have positive := List.length_pos_of_ne_nil form.nonempty
    rw [List.length_append] at single
    refine Or.inr ⟨same, leans, ?_⟩
    rw [tokenBehind, String.length_ofList]
    omega

theorem pairwise_precedes_tokensBehind (before : List Char) (pieces : List Piece)
    (last : List Char) (forms : ∀ piece ∈ pieces, piece.lexeme.Form) :
    (tokensBehind before (closedRow pieces last)).Pairwise Token.Precedes := by
  induction pieces generalizing before with
  | nil => exact List.pairwise_singleton _ _
  | cons piece pieces ih =>
    obtain ⟨form, later⟩ := List.forall_mem_cons.mp forms
    refine List.pairwise_cons.mpr ⟨?_, ih (before ++ piece.chars) later⟩
    intro second member
    obtain ⟨other, _, more, _, rfl⟩ := exists_of_mem_tokensBehind member
    have behind : before ++ piece.chars ++ more
        = before ++ piece.gap ++ (piece.lexeme.chars ++ more) := by
      simp [Piece.chars]
    rw [behind]
    exact form.precedes _ _ _

theorem pairwise_precedes_tokenize (source : String) :
    (tokenize source).Pairwise Token.Precedes := by
  obtain ⟨pieces, last, whole⟩ := exists_decomposition source.toList
  rw [whole.tokenize_eq_closedRow]
  exact pairwise_precedes_tokensBehind [] pieces last whole.forms

/-! ## Tokens in the text -/

/-- The text of the token is found in the source at the line and the column of the token. -/
def Token.StandsIn (source : List Char) (token : Token) : Prop :=
  ∃ offset, token.text.toList <+: source.drop offset ∧
    token.line = 1 + (source.take offset).count '\n' ∧ token.column = columnAt source offset

theorem standsIn_of_mem_tokenize {source : String} {token : Token}
    (member : token ∈ tokenize source) (upright : ¬ token.kind.LeansLeft) :
    token.StandsIn source.toList := by
  obtain ⟨pieces, last, whole⟩ := exists_decomposition source.toList
  rw [whole.tokenize_eq_closedRow, ← map_token_spotsBehind] at member
  obtain ⟨spot, present, rfl⟩ := List.mem_map.mp member
  obtain ⟨found, line_eq, column_eq⟩ := exact_of_mem_spotsBehind [] _ spot present
  rw [List.nil_append, whole.flatMap_closedRow] at found line_eq column_eq
  rcases column_eq with ⟨leans, _⟩ | ⟨_, column⟩
  · exact absurd leans upright
  · exact ⟨spot.offset, found, line_eq, column⟩

/-! ## Statements -/

namespace Node

mutual
def anchors : Node → List Token
  | .program statements => anchorsAll statements
  | .letStatement anchor name value? => anchor :: (anchors name ++ anchorsSlot value?)
  | .returnStatement anchor value? => anchor :: anchorsSlot value?
  | .identifier anchor _ => [anchor]
  | .foreign _ _ => []

def anchorsAll : List Node → List Token
  | [] => []
  | node :: nodes => anchors node ++ anchorsAll nodes

def anchorsSlot : Option Node → List Token
  | none => []
  | some node => anchors node
end

/-- A statement with a header of tokens from the source and without a value. -/
inductive StatementOf (source : List Char) : Node → Prop
  | letStatement (anchor name : Token) (anchor_kind : anchor.kind = .letWord)
      (anchor_text : anchor.text = "let") (anchor_stands : anchor.StandsIn source)
      (name_kind : name.kind = .ident) (name_text : IsName name.text)
      (name_stands : name.StandsIn source) :
      StatementOf source (.letStatement anchor (.identifier name name.text) none)
  | returnStatement (anchor : Token) (anchor_kind : anchor.kind = .returnWord)
      (anchor_text : anchor.text = "return") (anchor_stands : anchor.StandsIn source) :
      StatementOf source (.returnStatement anchor none)

theorem anchorsAll_eq_flatMap (nodes : List Node) : anchorsAll nodes = nodes.flatMap anchors := by
  induction nodes with
  | nil => rfl
  | cons node nodes ih => rw [anchorsAll, ih, List.flatMap_cons]

theorem StatementOf.anchors_upright {source : List Char} {node : Node}
    (statement : node.StatementOf source) :
    ∀ token ∈ node.anchors, ¬ token.kind.LeansLeft := by
  intro token member
  cases statement with
  | letStatement anchor name anchor_kind _ _ name_kind _ _ =>
    have either : token = anchor ∨ token = name := by
      simpa [anchors, anchorsSlot] using member
    rcases either with rfl | rfl
    · simp [Kind.LeansLeft, anchor_kind]
    · simp [Kind.LeansLeft, name_kind]
  | returnStatement anchor anchor_kind _ _ =>
    obtain rfl : token = anchor := by simpa [anchors, anchorsSlot] using member
    simp [Kind.LeansLeft, anchor_kind]

end Node

theorem text_of_keyword {source : String} {token : Token} (member : token ∈ tokenize source)
    (word : String) (reserved : (word, token.kind) ∈ keywords) : token.text = word := by
  have others : ∀ entry ∈ keywords, entry.2 ≠ .eof := by decide
  have form := form_of_mem_tokenize member (others _ reserved)
  exact String.toList_inj.mp (form.chars_of_keyword word reserved)

theorem isName_of_mem_tokenize {source : String} {token : Token}
    (member : token ∈ tokenize source) (named : token.kind = .ident) : IsName token.text := by
  have form := form_of_mem_tokenize member (by simp [named])
  have name := form.isName named
  rwa [Token.lexeme, String.ofList_toList] at name

theorem Span.statementOf {source : String} {following : List Token} {ending : Token} (span : Span)
    (fits : span.Fits following ending) (inside : ∀ token ∈ span.tokens, token ∈ tokenize source) :
    ∀ node ∈ span.statement?, node.StatementOf source.toList := by
  intro node given
  cases span with
  | letStatement anchor name assign body stop? =>
    obtain ⟨isLet, named, _, _⟩ := fits
    obtain rfl := Option.some.inj given
    have atAnchor : anchor ∈ tokenize source := inside anchor (by simp [tokens])
    have atName : name ∈ tokenize source := inside name (by simp [tokens])
    have word := text_of_keyword atAnchor "let" (by simp [isLet, keywords])
    exact .letStatement anchor name isLet word
      (standsIn_of_mem_tokenize atAnchor (by simp [Kind.LeansLeft, isLet])) named
      (isName_of_mem_tokenize atName named)
      (standsIn_of_mem_tokenize atName (by simp [Kind.LeansLeft, named]))
  | returnStatement anchor body stop? =>
    obtain ⟨isReturn, _⟩ := fits
    obtain rfl := Option.some.inj given
    have atAnchor : anchor ∈ tokenize source := inside anchor (by simp [tokens])
    have word := text_of_keyword atAnchor "return" (by simp [isReturn, keywords])
    exact .returnStatement anchor isReturn word
      (standsIn_of_mem_tokenize atAnchor (by simp [Kind.LeansLeft, isReturn]))
  | nameless | unassigned | unsupported => contradiction

theorem Segments.statementOf {source : String} {ending : Token} {list : List Token}
    {spans : List Span} (segments : Segments ending list spans)
    (inside : ∀ token ∈ list, token ∈ tokenize source) :
    ∀ node ∈ spans.filterMap Span.statement?, node.StatementOf source.toList := by
  induction segments with
  | nil => simp
  | @cons span spans following fits later ih =>
    obtain ⟨here, behind⟩ := List.forall_mem_append.mp inside
    intro node member
    obtain ⟨other, listed, given⟩ := List.mem_filterMap.mp member
    rcases List.mem_cons.mp listed with rfl | further
    · exact other.statementOf fits here node given
    · exact ih behind node (List.mem_filterMap.mpr ⟨other, further, given⟩)

theorem Span.anchors_sublist (span : Span) :
    (Node.anchorsSlot span.statement?).Sublist span.tokens := by
  cases span with
  | letStatement anchor name assign body stop? =>
    exact ((List.nil_sublist _).cons_cons name).cons_cons anchor
  | returnStatement anchor body stop? => exact (List.nil_sublist _).cons_cons anchor
  | nameless | unassigned | unsupported => exact List.nil_sublist _

theorem anchors_sublist (spans : List Span) :
    (Node.anchorsAll (spans.filterMap Span.statement?)).Sublist (spans.flatMap Span.tokens) := by
  induction spans with
  | nil => exact List.Sublist.refl []
  | cons span spans ih =>
    have both := span.anchors_sublist.append ih
    rw [List.filterMap_cons, List.flatMap_cons]
    cases given : span.statement? with
    | none => rwa [given] at both
    | some node => rwa [given] at both

/-! ## Faults -/

theorem Span.found_of_fault? {following : List Token} {ending : Token} (span : Span) :
    ∀ fault ∈ span.fault? following ending, fault.found = following.headD ending := by
  intro fault given
  cases span with
  | nameless | unassigned =>
    obtain rfl := Option.some.inj given
    rfl
  | letStatement | returnStatement | unsupported => contradiction

theorem Span.exists_anchor {following : List Token} {ending : Token} (span : Span)
    (fits : span.Fits following ending) :
    ∀ fault ∈ span.fault? following ending,
      ∃ anchor more, span.tokens = anchor :: more ∧ anchor.kind = .letWord := by
  intro fault given
  cases span with
  | nameless anchor => exact ⟨anchor, [], rfl, fits.1⟩
  | unassigned anchor name => exact ⟨anchor, [name], rfl, fits.1⟩
  | letStatement | returnStatement | unsupported => contradiction

theorem headD_mem_concat (list : List Token) (ending : Token) :
    list.headD ending ∈ list ++ [ending] := by
  cases list with
  | nil => simp
  | cons token list => simp

theorem Segments.exists_anchor {ending : Token} {list : List Token} {spans : List Span}
    (segments : Segments ending list spans) :
    ∀ fault ∈ faults ending spans, ∃ (front : List Token) (anchor : Token) (back : List Token),
      list ++ [ending] = front ++ anchor :: back ∧ anchor.kind = .letWord ∧
        fault.found ∈ back := by
  induction segments with
  | nil => simp [faults]
  | @cons span spans following fits later ih =>
    intro fault member
    rw [faults, ← later.tokens_eq] at member
    rcases List.mem_append.mp member with here | behind
    · have given := Option.mem_toList.mp here
      obtain ⟨anchor, more, starts, isLet⟩ := span.exists_anchor fits fault given
      refine ⟨[], anchor, more ++ (following ++ [ending]), by simp [starts], isLet, ?_⟩
      rw [span.found_of_fault? fault given]
      exact List.mem_append_right _ (headD_mem_concat following ending)
    · obtain ⟨front, anchor, back, split, isLet, found⟩ := ih fault behind
      exact ⟨span.tokens ++ front, anchor, back, by simp [split], isLet, found⟩

theorem place_headD_le {list : List Token} {ending : Token}
    (ordered : (list ++ [ending]).Pairwise Token.Precedes) :
    ∀ token ∈ list ++ [ending], (list.headD ending).place ≤ token.place := by
  intro token member
  cases list with
  | nil =>
    obtain rfl := List.mem_singleton.mp member
    exact le_refl _
  | cons first rest =>
    obtain ⟨before, _⟩ := List.pairwise_cons.mp ordered
    rcases List.mem_cons.mp member with rfl | later
    · exact le_refl _
    · exact (before token later).place_le

/-- The `let` of a later fault stands between it and what comes before the header. -/
theorem Segments.place_headD_lt {ending : Token} {list : List Token} {spans : List Span}
    (segments : Segments ending list spans)
    (ordered : (list ++ [ending]).Pairwise Token.Precedes)
    (words : ∀ token ∈ list ++ [ending], token.kind = .letWord → token.text = "let") :
    ∀ fault ∈ faults ending spans, (list.headD ending).place < fault.found.place := by
  intro fault member
  obtain ⟨front, anchor, back, split, isLet, found⟩ := segments.exists_anchor fault member
  have inside : anchor ∈ list ++ [ending] := by simp [split]
  have start := place_headD_le ordered anchor inside
  have word := words anchor inside isLet
  rw [split] at ordered
  obtain ⟨before, _⟩ := List.pairwise_cons.mp (List.pairwise_append.mp ordered).2.1
  have long : anchor.text.length ≠ 1 := by
    rw [word]
    decide
  exact start.trans_lt ((before fault.found found).place_lt_of_long long)

theorem Segments.faults_in_order {ending : Token} {list : List Token} {spans : List Span}
    (segments : Segments ending list spans)
    (ordered : (list ++ [ending]).Pairwise Token.Precedes)
    (words : ∀ token ∈ list ++ [ending], token.kind = .letWord → token.text = "let") :
    (faults ending spans).Pairwise
      (fun first second => first.found.place < second.found.place) := by
  induction segments with
  | nil => exact List.Pairwise.nil
  | @cons span spans following fits later ih =>
    rw [List.append_assoc] at ordered words
    have orderedLater := (List.pairwise_append.mp ordered).2.1
    have wordsLater := (List.forall_mem_append.mp words).2
    have above := later.place_headD_lt orderedLater wordsLater
    rw [faults, ← later.tokens_eq]
    refine List.pairwise_append.mpr ⟨?_, ih orderedLater wordsLater, ?_⟩
    · cases span.fault? following ending with
      | none => exact List.Pairwise.nil
      | some fault => exact List.pairwise_singleton _ _
    · intro fault here other behind
      rw [span.found_of_fault? fault (Option.mem_toList.mp here)]
      exact above other behind

/-! ## Programs -/

def Location.place (location : Location) : Lex (Int × Int) :=
  toLex (location.line, location.column)

/-- Every statement is made of words that stand where they are reported, one behind the other; and
every diagnostic is reported on a token, behind all the diagnostics before it. -/
theorem parse_in_order (source file : String) :
    ∃ statements : List Node,
      (Parser.ofSource source file).parseProgram.1 = .program statements ∧
        (∀ statement ∈ statements, statement.StatementOf source.toList) ∧
        ((Node.program statements).anchors.map Token.place).Pairwise (· < ·) ∧
        (∀ diagnostic ∈ (Parser.ofSource source file).parseProgram.2.diagnostics.toList,
          ∃ token ∈ tokenize source, diagnostic.location = token.location file) ∧
        ((Parser.ofSource source file).parseProgram.2.diagnostics.toList.map
          (fun diagnostic => diagnostic.location.place)).Pairwise (· < ·) := by
  obtain ⟨tokens, ending, spans, split, segments, parsed⟩ := exists_parse source
  obtain ⟨program, recorded⟩ := parsed file
  have ordered := pairwise_precedes_tokenize source
  have words : ∀ token ∈ tokenize source, token.kind = .letWord → token.text = "let" := by
    intro token member isLet
    exact text_of_keyword member "let" (by simp [isLet, keywords])
  have inside : ∀ token ∈ tokens, token ∈ tokenize source := by
    intro token member
    rw [split]
    exact List.mem_append_left _ member
  have statements := segments.statementOf inside
  rw [split] at ordered words
  refine ⟨_, program, statements, ?_, ?_, ?_⟩
  · have listed := anchors_sublist spans
    rw [← segments.tokens_eq] at listed
    have anchorsOrdered := ordered.sublist (listed.trans (List.sublist_append_left _ _))
    rw [Node.anchors, List.pairwise_map]
    refine anchorsOrdered.imp_of_mem ?_
    intro first second _ present precedes
    rw [Node.anchorsAll_eq_flatMap] at present
    obtain ⟨node, member, anchored⟩ := List.mem_flatMap.mp present
    exact precedes.place_lt_of_upright ((statements node member).anchors_upright second anchored)
  · intro diagnostic member
    rw [recorded] at member
    obtain ⟨fault, present, rfl⟩ := List.mem_map.mp member
    obtain ⟨front, anchor, back, whole, _, found⟩ := segments.exists_anchor fault present
    refine ⟨fault.found, ?_, rfl⟩
    rw [split, whole]
    exact List.mem_append_right _ (List.mem_cons_of_mem _ found)
  · rw [recorded, List.map_map, List.pairwise_map]
    exact segments.faults_in_order ordered words

end MonkeySyntax
