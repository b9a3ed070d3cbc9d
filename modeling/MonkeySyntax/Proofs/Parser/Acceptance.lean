import MonkeySyntax.Proofs.TokenStream.Concatenation
import MonkeySyntax.Proofs.Unplaced

/-!
# Texts that are accepted

A right-hand side is any text without a semicolon.  The space in front of it keeps it from the
header, and its first semicolon is the one that was written behind it.
-/

set_option autoImplicit false

namespace MonkeySyntax

/-! ## What can be written -/

structure Name where
  text : String
  isName : IsName text

structure RightSide where
  text : String
  plain : ';' ∉ text.toList

structure Gap where
  text : String
  layout : AllLayout text.toList

inductive Item
  | letStatement (name : Name) (rightSide : RightSide)
  | returnStatement (rightSide : RightSide)

namespace Item

def text : Item → String
  | letStatement name rightSide => "let " ++ name.text ++ " = " ++ rightSide.text ++ ";"
  | returnStatement rightSide => "return " ++ rightSide.text ++ ";"

/-- The statement that stands for the item in a tree, without places. -/
def statement : Item → Node
  | letStatement name _ =>
    .letStatement ⟨.letWord, "let", 0, 0⟩ (.identifier ⟨.ident, name.text, 0, 0⟩ name.text) none
  | returnStatement _ => .returnStatement ⟨.returnWord, "return", 0, 0⟩ none

end Item

/-- The items one after the other, with layout before the first and behind each. -/
def written (lead : Gap) : List (Item × Gap) → String
  | [] => lead.text
  | (item, gap) :: rows => lead.text ++ (item.text ++ written gap rows)

/-! ## Right-hand sides -/

theorem Lexeme.not_goesOnWith_semicolon (lexeme : Lexeme) : ¬ lexeme.GoesOnWith ';' := by
  intro goesOn
  rcases goesOn with ⟨_, letter⟩ | ⟨_, digit⟩ | ⟨_, equal⟩
  · exact absurd letter (by decide)
  · exact absurd digit (by decide)
  · exact absurd equal (by decide)

theorem Lexeme.Form.mem_of_semicolon {lexeme : Lexeme} (form : lexeme.Form)
    (semicolon : lexeme.kind = .semicolon) : ';' ∈ lexeme.chars := by
  cases form with
  | word chars kind nonempty letters reads =>
    have others : ∀ entry ∈ keywords, entry.2 ≠ .semicolon := by decide
    rcases reads with listed | ⟨name, _⟩
    · exact absurd semicolon (others _ listed)
    · exact absurd (name.symm.trans semicolon) (by decide)
  | symbol c kind listed =>
    have only : ∀ entry ∈ symbols, entry.2 = .semicolon → entry.1 = ';' := by decide
    exact List.mem_singleton.mpr (only _ listed semicolon).symm
  | number | equal | notEqual | assign | bang | stray => contradiction

/-- A lexeme put between two texts that do not reach into it; the layout at the end of the first
stands before it. -/
theorem Decomposes.insert {source tail : List Char} {pieces others : List Piece}
    {gap last : List Char} (left : Decomposes source pieces gap) (lexeme : Lexeme)
    (form : lexeme.Form) (joint : EndsAtJoint pieces gap (lexeme.chars ++ tail))
    (ends : lexeme.EndsBefore tail) (right : Decomposes tail others last) :
    Decomposes (source ++ (lexeme.chars ++ tail)) (pieces ++ ⟨gap, lexeme⟩ :: others) last := by
  induction pieces generalizing source with
  | nil =>
    obtain ⟨rfl, layout⟩ := (nil_iff source gap).mp left
    exact (cons_iff _ _ _ _).mpr ⟨tail, rfl, layout, form, ends, right⟩
  | cons piece pieces ih =>
    obtain ⟨rest, rfl, layout, pieceForm, pieceEnds, later⟩ := (cons_iff _ _ _ _).mp left
    have reaches : rest = [] → piece.lexeme.EndsBefore (lexeme.chars ++ tail) := by
      rintro rfl
      obtain ⟨rfl, rfl⟩ := later.eq_nil_of_nil
      exact joint rfl piece rfl
    refine (cons_iff _ _ _ _).mpr ⟨rest ++ (lexeme.chars ++ tail), ?_, layout, pieceForm,
      pieceEnds.append reaches, ih later joint.tail⟩
    rw [List.append_assoc, List.append_assoc]

theorem Decomposes.mem_of_mem_chars {source : List Char} {pieces : List Piece} {last : List Char}
    (whole : Decomposes source pieces last) {piece : Piece} (member : piece ∈ pieces) {c : Char}
    (present : c ∈ piece.lexeme.chars) : c ∈ source := by
  rw [whole.spells]
  apply List.mem_append_left
  exact List.mem_flatMap.mpr ⟨piece, member, List.mem_append_right _ present⟩

/-- A text without a semicolon is read by itself in front of one. -/
theorem exists_body_pieces (body : List Char) (plain : ';' ∉ body) {tail : List Char}
    {others : List Piece} {last : List Char} (behind : Decomposes tail others last) :
    ∃ (pieces : List Piece) (gap : List Char),
      Decomposes (body ++ ';' :: tail) (pieces ++ ⟨gap, ⟨.semicolon, [';']⟩⟩ :: others) last ∧
        ∀ piece ∈ pieces, piece.lexeme.kind ≠ .semicolon := by
  obtain ⟨pieces, gap, whole⟩ := exists_decomposition body
  have form : Lexeme.Form ⟨.semicolon, [';']⟩ := .symbol ';' .semicolon (by decide)
  have joint : EndsAtJoint pieces gap (';' :: tail) := by
    intro _ piece _ c next
    obtain rfl : ';' = c := Option.some.inj next
    exact piece.lexeme.not_goesOnWith_semicolon
  refine ⟨pieces, gap,
    whole.insert _ form joint (Lexeme.semicolon_endsBefore tail) behind, ?_⟩
  intro piece member semicolon
  have present := (whole.forms piece member).mem_of_semicolon semicolon
  exact plain (whole.mem_of_mem_chars member present)

/-! ## One statement -/

theorem form_of_keyword (word : String) (kind : Kind) (reserved : (word, kind) ∈ keywords) :
    Lexeme.Form ⟨kind, word.toList⟩ := by
  have spelled : ∀ entry ∈ keywords,
      entry.1.toList ≠ [] ∧ entry.1.toList.all isLetter = true := by decide
  obtain ⟨nonempty, letters⟩ := spelled _ reserved
  have reads : ReadsAs (String.ofList word.toList) kind :=
    Or.inl (by rwa [String.ofList_toList])
  exact .word _ _ nonempty (List.all_eq_true.mp letters) reads

theorem Name.form (name : Name) : Lexeme.Form ⟨.ident, name.text.toList⟩ := by
  obtain ⟨nonempty, letters, unreserved⟩ := name.isName
  exact .word _ _ nonempty letters (Or.inr ⟨rfl, by rwa [String.ofList_toList]⟩)

theorem Decomposes.prepend {tail : List Char} {pieces : List Piece} {last : List Char}
    (behind : Decomposes (' ' :: tail) pieces last) (gap : List Char) (layout : AllLayout gap)
    (lexeme : Lexeme) (form : lexeme.Form) :
    Decomposes (gap ++ (lexeme.chars ++ ' ' :: tail)) (⟨gap, lexeme⟩ :: pieces) last := by
  have ends : lexeme.EndsBefore (' ' :: tail) := by
    intro c next
    obtain rfl : ' ' = c := Option.some.inj next
    exact lexeme.not_goesOnWith_of_isLayout ' ' (by decide)
  exact (cons_iff _ _ _ _).mpr ⟨' ' :: tail, rfl, layout, form, ends, behind⟩

/-- What comes of one statement: a span that fits before anything, and no fault. -/
structure Item.IsSpan (item : Item) (span : Span) : Prop where
  fits : ∀ following ending, span.Fits following ending
  faultless : ∀ following ending, span.fault? following ending = none
  statement_eq : span.statement?.map Node.unplaced = some item.statement

theorem passedOver_body (before : List Char) (pieces : List Piece) (stop : Token)
    (plain : ∀ piece ∈ pieces, piece.lexeme.kind ≠ .semicolon) (ends : stop.kind = .semicolon)
    (following : List Token) :
    PassedOver (tokensBehind before pieces) (some stop) following where
  body_kind := by
    intro token member
    have listed : token.lexeme ∈ pieces.map Piece.lexeme := by
      rw [← map_lexeme_tokensBehind before]
      exact List.mem_map_of_mem member
    obtain ⟨piece, present, same⟩ := List.mem_map.mp listed
    have kind : token.kind = piece.lexeme.kind := congrArg Lexeme.kind same.symm
    rw [kind]
    exact plain piece present
  stop_kind := by
    intro token member
    obtain rfl : stop = token := Option.some.inj member
    exact ends
  open_end := by
    intro ended
    contradiction

def Item.ReadsBefore (item : Item) (text tail : List Char) (others : List Piece)
    (last : List Char) : Prop :=
  ∃ own : List Piece,
    Decomposes (text ++ tail) (own ++ others) last ∧
      ∀ before, ∃ span, tokensBehind before own = span.tokens ∧ item.IsSpan span

section Items

variable {tail : List Char} {others : List Piece} {last : List Char}

theorem readsBefore_letStatement (name : Name) (rightSide : RightSide) (lead : Gap)
    (behind : Decomposes tail others last) :
    (Item.letStatement name rightSide).ReadsBefore
      (lead.text ++ (Item.letStatement name rightSide).text).toList tail others last := by
  have plain : ';' ∉ ' ' :: rightSide.text.toList := by simpa using rightSide.plain
  have space : AllLayout [' '] := by decide
  have reserved := form_of_keyword "let" .letWord (by decide)
  obtain ⟨body, gap, rest, noSemicolon⟩ := exists_body_pieces _ plain behind
  have assigned := rest.prepend [' '] space ⟨.assign, ['=']⟩ .assign
  have named := assigned.prepend [' '] space ⟨.ident, name.text.toList⟩ name.form
  have whole := named.prepend lead.text.toList lead.layout ⟨.letWord, "let".toList⟩ reserved
  refine ⟨⟨lead.text.toList, ⟨.letWord, "let".toList⟩⟩
    :: ⟨[' '], ⟨.ident, name.text.toList⟩⟩ :: ⟨[' '], ⟨.assign, ['=']⟩⟩
    :: (body ++ [⟨gap, ⟨.semicolon, [';']⟩⟩]), by simpa [Item.text] using whole, ?_⟩
  intro before
  refine ⟨.letStatement ?anchor ?name ?assign (tokensBehind ?front body) (some ?stop),
    ?spells, fun following ending => ?fits, fun _ _ => rfl, ?statement⟩
  case spells =>
    rw [tokensBehind, tokensBehind, tokensBehind, tokensBehind_append]
    rfl
  case fits => exact ⟨rfl, rfl, rfl, passedOver_body _ _ _ noSemicolon rfl following⟩
  case statement =>
    simp [Span.statement?, Item.statement, Node.unplaced, Node.relocate, Node.relocateSlot,
      Token.unplaced, Lexeme.tokenBehind]

theorem readsBefore_returnStatement (rightSide : RightSide) (lead : Gap)
    (behind : Decomposes tail others last) :
    (Item.returnStatement rightSide).ReadsBefore
      (lead.text ++ (Item.returnStatement rightSide).text).toList tail others last := by
  have plain : ';' ∉ ' ' :: rightSide.text.toList := by simpa using rightSide.plain
  have reserved := form_of_keyword "return" .returnWord (by decide)
  obtain ⟨body, gap, rest, noSemicolon⟩ := exists_body_pieces _ plain behind
  have whole := rest.prepend lead.text.toList lead.layout ⟨.returnWord, "return".toList⟩ reserved
  refine ⟨⟨lead.text.toList, ⟨.returnWord, "return".toList⟩⟩
    :: (body ++ [⟨gap, ⟨.semicolon, [';']⟩⟩]), by simpa [Item.text] using whole, ?_⟩
  intro before
  refine ⟨.returnStatement ?anchor (tokensBehind ?front body) (some ?stop),
    ?spells, fun following ending => ?fits, fun _ _ => rfl, ?statement⟩
  case spells =>
    rw [tokensBehind, tokensBehind_append]
    rfl
  case fits => exact ⟨rfl, passedOver_body _ _ _ noSemicolon rfl following⟩
  case statement =>
    simp [Span.statement?, Item.statement, Node.unplaced, Node.relocate, Node.relocateSlot,
      Token.unplaced, Lexeme.tokenBehind]

theorem Item.readsBefore (item : Item) (lead : Gap) (behind : Decomposes tail others last) :
    item.ReadsBefore (lead.text ++ item.text).toList tail others last := by
  cases item with
  | letStatement name rightSide => exact readsBefore_letStatement name rightSide lead behind
  | returnStatement rightSide => exact readsBefore_returnStatement rightSide lead behind

end Items

/-! ## Rows of statements -/

theorem written_segments (lead : Gap) (rows : List (Item × Gap)) :
    ∃ (pieces : List Piece) (last : List Char),
      Decomposes (written lead rows).toList pieces last ∧
        ∀ before ending, ∃ spans, Segments ending (tokensBehind before pieces) spans ∧
          faults ending spans = [] ∧
          (spans.filterMap Span.statement?).map Node.unplaced
            = rows.map (fun row => row.1.statement) := by
  induction rows generalizing lead with
  | nil =>
    refine ⟨[], lead.text.toList, (Decomposes.nil_iff _ _).mpr ⟨rfl, lead.layout⟩, ?_⟩
    intro before ending
    exact ⟨[], .nil, rfl, rfl⟩
  | cons row rows ih =>
    obtain ⟨item, gap⟩ := row
    obtain ⟨pieces, last, behind, later⟩ := ih gap
    obtain ⟨own, whole, here⟩ := item.readsBefore lead behind
    refine ⟨own ++ pieces, last, by simpa [written] using whole, ?_⟩
    intro before ending
    obtain ⟨span, spells, fits, faultless, statement_eq⟩ := here before
    obtain ⟨spans, segments, noFaults, statements⟩ :=
      later (before ++ own.flatMap Piece.chars) ending
    refine ⟨span :: spans, ?_, ?_, ?_⟩
    · rw [tokensBehind_append, spells]
      exact .cons (fits _ _) segments
    · rw [faults, faultless, noFaults]
      rfl
    · obtain ⟨statement, found, same⟩ := Option.map_eq_some_iff.mp statement_eq
      rw [List.filterMap_cons_some found, List.map_cons, statements, List.map_cons, same]

/-- A row of statements parses without a diagnostic to exactly these statements, in order. -/
theorem parse_written (lead : Gap) (rows : List (Item × Gap)) (file : String) :
    ∃ statements, parseSource (written lead rows) file = .ok (.program statements) ∧
      statements.map Node.unplaced = rows.map (fun row => row.1.statement) := by
  obtain ⟨pieces, last, whole, read⟩ := written_segments lead rows
  obtain ⟨spans, segments, noFaults, statements⟩ :=
    read [] (Lexeme.ending.tokenBehind (written lead rows).toList)
  obtain ⟨program, diagnostics⟩ := parse_segments _ file pieces last whole spans segments
  refine ⟨spans.filterMap Span.statement?, ?_, statements⟩
  rw [noFaults, List.map_nil] at diagnostics
  simp only [parseSource, program, diagnostics]

/-- A right-hand side may look like a statement of its own, and hold what no token starts with. -/
theorem let_and_return_accepted :
    ∃ statements,
      parseSource "\nlet x = return @; return let y = 1;" "a" = .ok (.program statements) ∧
        statements.map Node.unplaced
          = [.letStatement ⟨.letWord, "let", 0, 0⟩ (.identifier ⟨.ident, "x", 0, 0⟩ "x") none,
            .returnStatement ⟨.returnWord, "return", 0, 0⟩ none] := by
  have text : written ⟨"\n", by decide⟩
      [(.letStatement ⟨"x", ⟨by decide, List.all_eq_true.mp rfl, by decide⟩⟩
          ⟨"return @", by decide⟩, ⟨" ", by decide⟩),
        (.returnStatement ⟨"let y = 1", by decide⟩, ⟨"", by decide⟩)]
      = "\nlet x = return @; return let y = 1;" := by decide
  rw [← text]
  exact parse_written _ _ "a"

end MonkeySyntax
