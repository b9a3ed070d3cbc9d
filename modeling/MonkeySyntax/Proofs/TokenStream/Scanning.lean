import Mathlib.Data.String.Basic
import MonkeySyntax.Proofs.TokenStream.Pulls
import MonkeySyntax.Proofs.TokenStream.Spot

/-!
# Scanning loops

Words, numbers and layout are read by loops that advance as long as the text under the cursor passes
a test; `loopRuns_iff` says that this is what a run of a class takes at once.

A loop over letters or digits stays on its line (`takeRun_on_line`), so `readToken` gets the column
of a token back from the place where its reading has stopped.
-/

set_option autoImplicit false

namespace MonkeySyntax

/-- A front of the text inside the class, of which every front inside the class is a front. -/
structure LongestRun (inside : Char → Prop) (text run : List Char) : Prop where
  front : run <+: text
  within : ∀ c ∈ run, inside c
  longest : ∀ other, other <+: text → (∀ c ∈ other, inside c) → other <+: run

theorem longestRun_takeWhile (member : Char → Bool) (text : List Char) :
    LongestRun (fun c => member c = true) text (text.takeWhile member) where
  front := List.takeWhile_prefix member
  within := fun _ inside => List.mem_takeWhile_imp inside
  longest := by
    rintro other ⟨tail, rfl⟩ within
    rw [List.takeWhile_append_of_pos within]
    exact List.prefix_append other _

/-! ## Classes of characters by name -/

theorem isLetter_iff (c : Char) : isLetter c = true ↔ c.isAlpha = true ∨ c = '_' := by
  have lower : ('a' ≤ c && c ≤ 'z') = c.isLower := rfl
  have upper : ('A' ≤ c && c ≤ 'Z') = c.isUpper := (Bool.decide_and _ _).symm
  have alpha : (c.isUpper || c.isLower) = c.isAlpha := rfl
  rw [isLetter, lower, upper, Bool.or_comm c.isLower, alpha, Bool.or_eq_true, beq_iff_eq]

theorem isDigit_iff (c : Char) : isDigit c = true ↔ c.isDigit = true :=
  Iff.rfl

theorem isLayout_iff (c : Char) :
    isLayout c = true ↔ c = ' ' ∨ c = '\t' ∨ c = '\n' ∨ c = '\r' := by
  simp [isLayout, layoutChars]

/-! ## Tests on the text under the cursor

Texts are compared in dictionary order, and at the end of the source the text is empty. -/

def IsWordText (text : String) : Prop :=
  ("a" ≤ text ∧ text ≤ "z") ∨ ("A" ≤ text ∧ text ≤ "Z") ∨ text = "_"

def IsNumberText (text : String) : Prop :=
  "0" ≤ text ∧ text ≤ "9"

def IsLayoutText (text : String) : Prop :=
  text ∈ [" ", "\t", "\n", "\r"]

/-- The test picks the characters of the class, and not the end. -/
structure Decides (test : String → Prop) (member : Char → Bool) : Prop where
  not_ended : ¬ test ""
  singleton_iff : ∀ c, test (String.singleton c) ↔ member c = true

theorem singleton_le_singleton_iff (c d : Char) :
    String.singleton c ≤ String.singleton d ↔ c ≤ d := by
  rw [← not_lt, String.lt_iff_toList_lt, String.toList_singleton, String.toList_singleton,
    List.cons_lt_cons_iff]
  simp

theorem singleton_between_iff (low high c : Char) :
    (String.singleton low ≤ String.singleton c ∧ String.singleton c ≤ String.singleton high)
      ↔ (decide (low ≤ c) && decide (c ≤ high)) = true := by
  rw [singleton_le_singleton_iff, singleton_le_singleton_iff, Bool.and_eq_true, decide_eq_true_eq,
    decide_eq_true_eq]

theorem decides_word : Decides IsWordText isLetter where
  not_ended := by unfold IsWordText; decide
  singleton_iff := by
    intro c
    have underscore : String.singleton c = String.singleton '_' ↔ (c == '_') = true := by
      rw [String.singleton_inj, beq_iff_eq]
    rw [isLetter, Bool.or_eq_true, Bool.or_eq_true, or_assoc, ← singleton_between_iff,
      ← singleton_between_iff, ← underscore]
    rfl

theorem decides_number : Decides IsNumberText isDigit where
  not_ended := by unfold IsNumberText; decide
  singleton_iff := fun c => singleton_between_iff '0' '9' c

theorem decides_layout : Decides IsLayoutText isLayout where
  not_ended := by unfold IsLayoutText; decide
  singleton_iff := by
    intro c
    have listed : [" ", "\t", "\n", "\r"] = layoutChars.map String.singleton := rfl
    rw [IsLayoutText, listed, isLayout, List.contains_iff_mem, List.mem_map]
    simp

namespace Cursor

/-! ## Loops -/

theorem shown_iff {test : String → Prop} {member : Char → Bool} (decides : Decides test member)
    (cursor : Cursor) :
    test cursor.shown ↔ ∃ c rest, cursor.rest = c :: rest ∧ member c = true := by
  cases ahead : cursor.rest with
  | nil => simp [shown, textOf, current?, ahead, decides.not_ended]
  | cons c rest => simp [shown, textOf, current?, ahead, decides.singleton_iff]

/-- Advancing as long as the text under the cursor passes the test takes so many turns and ends at
the later cursor. -/
inductive LoopRuns (test : String → Prop) : Cursor → Nat → Cursor → Prop
  | exit {cursor : Cursor} (fails : ¬ test cursor.shown) : LoopRuns test cursor 0 cursor
  | turn {cursor later : Cursor} {turns : Nat} (passes : test cursor.shown)
      (onward : LoopRuns test cursor.advance turns later) : LoopRuns test cursor (turns + 1) later

section Loops

variable {test : String → Prop} {member : Char → Bool}

/-- Every turn shortens what is ahead, and the end of the source passes no test. -/
theorem exists_loopRuns (decides : Decides test member) (cursor : Cursor) :
    ∃ turns later, LoopRuns test cursor turns later := by
  induction ahead : cursor.rest generalizing cursor with
  | nil =>
    have fails : ¬ test cursor.shown := by simp [shown_iff decides, ahead]
    exact ⟨0, cursor, .exit fails⟩
  | cons c rest ih =>
    by_cases passes : test cursor.shown
    · have shorter : cursor.advance.rest = rest := by rw [rest_advance, ahead, List.tail_cons]
      obtain ⟨turns, later, onward⟩ := ih cursor.advance shorter
      exact ⟨turns + 1, later, .turn passes onward⟩
    · exact ⟨0, cursor, .exit passes⟩

/-- By induction on the turns: each takes one character off the run. -/
theorem LoopRuns.ends_at (decides : Decides test member) {cursor later : Cursor} {turns : Nat}
    (runs : LoopRuns test cursor turns later) :
    turns = (cursor.rest.takeWhile member).length ∧ later = cursor.advanceBy turns := by
  induction runs with
  | @exit cursor fails =>
    refine ⟨?_, rfl⟩
    cases ahead : cursor.rest with
    | nil => rfl
    | cons c rest =>
      have outside : ¬ member c = true := by simpa [shown_iff decides, ahead] using fails
      rw [List.takeWhile_cons_of_neg outside, List.length_nil]
  | @turn cursor later turns passes onward ih =>
    obtain ⟨c, rest, ahead, inside⟩ := (shown_iff decides cursor).mp passes
    obtain ⟨counted, stops⟩ := ih
    rw [rest_advance, ahead, List.tail_cons] at counted
    rw [ahead, List.takeWhile_cons_of_pos inside, List.length_cons, counted, advanceBy, ← counted]
    exact ⟨rfl, stops⟩

/-- The loop ends in one way, and a run of the class taken at once comes to the same. -/
theorem loopRuns_iff (decides : Decides test member) (cursor later : Cursor) (turns : Nat) :
    LoopRuns test cursor turns later
      ↔ turns = (cursor.rest.takeWhile member).length ∧ later = (cursor.takeRun member).2 := by
  constructor
  · intro runs
    obtain ⟨counted, stops⟩ := runs.ends_at decides
    exact ⟨counted, by rw [stops, counted, takeRun]⟩
  · rintro ⟨rfl, rfl⟩
    -- The loop does end, and where it ends is already known.
    obtain ⟨turns, stop, runs⟩ := exists_loopRuns decides cursor
    obtain ⟨rfl, rfl⟩ := runs.ends_at decides
    exact runs

end Loops

/-! ## How far a cursor moves -/

theorem offset_add_length_advance (cursor : Cursor) :
    cursor.advance.offset + cursor.advance.rest.length = cursor.offset + cursor.rest.length := by
  cases ahead : cursor.rest with
  | nil => rw [advance_of_ended cursor ahead, ahead]
  | cons c rest =>
    have moved : cursor.advance.offset = cursor.offset + 1 := by
      simp only [advance, ahead]
      split <;> rfl
    rw [moved, rest_advance, ahead, List.tail_cons, List.length_cons]
    omega

theorem Reaches.offset_add_length {cursor later : Cursor} (reached : cursor.Reaches later) :
    later.offset + later.rest.length = cursor.offset + cursor.rest.length := by
  obtain ⟨count, rfl⟩ := reached
  induction count generalizing cursor with
  | zero => rfl
  | succ count ih => rw [advanceBy, ih, offset_add_length_advance]

theorem offset_takeRun (member : Char → Bool) (cursor : Cursor) :
    (cursor.takeRun member).2.offset
      = cursor.offset + (cursor.rest.takeWhile member).length := by
  have whole := congrArg List.length
    (List.takeWhile_append_dropWhile (p := member) (l := cursor.rest))
  have reached : cursor.Reaches (cursor.takeRun member).2 := ⟨_, rfl⟩
  have kept := reached.offset_add_length
  rw [rest_takeRun] at kept
  rw [List.length_append] at whole
  omega

theorem advanceBy_on_line (cursor : Cursor) (run rest : List Char)
    (ahead : cursor.rest = run ++ rest) (single : '\n' ∉ run) :
    cursor.advanceBy run.length
      = ⟨cursor.offset + run.length, cursor.line, cursor.column + run.length, rest⟩ := by
  induction run generalizing cursor with
  | nil =>
    have same : rest = cursor.rest := ahead.symm
    rw [same]
    rfl
  | cons c run ih =>
    obtain ⟨other, single⟩ := List.ne_and_not_mem_of_not_mem_cons single
    have moved : cursor.advance
        = ⟨cursor.offset + 1, cursor.line, cursor.column + 1, run ++ rest⟩ := by
      simp [advance, ahead, Ne.symm other]
    rw [List.length_cons, advanceBy, moved, ih _ rfl single]
    simp only [Nat.add_assoc, Nat.add_comm 1]

theorem newline_not_mem_takeWhile {member : Char → Bool} (run : RunClass member)
    (text : List Char) : '\n' ∉ text.takeWhile member := by
  intro present
  have inside : member '\n' = true := List.mem_takeWhile_imp present
  rw [run.eq_false '\n' (by decide) (by decide)] at inside
  contradiction

theorem takeRun_on_line {member : Char → Bool} (run : RunClass member) (cursor : Cursor) :
    (cursor.takeRun member).2
      = ⟨cursor.offset + (cursor.rest.takeWhile member).length, cursor.line,
          cursor.column + (cursor.rest.takeWhile member).length, cursor.rest.dropWhile member⟩ :=
  advanceBy_on_line cursor _ _ List.takeWhile_append_dropWhile.symm
    (newline_not_mem_takeWhile run cursor.rest)

/-! ## Scans of a text -/

/-- The loop with the test passes the longest run of the class and stops behind it. -/
structure Scans (test : String → Prop) (inside : Char → Prop) (ahead : List Char)
    (cursor : Cursor) (run : List Char) (later : Cursor) : Prop where
  longest : LongestRun inside ahead run
  loop_iff : ∀ turns stop, LoopRuns test cursor turns stop ↔ turns = run.length ∧ stop = later
  offset_eq : later.offset = cursor.offset + run.length
  rest_eq : later.rest = ahead.drop run.length
  stops : ∀ c, later.current? = some c → ¬ inside c

structure ScansOnLine (test : String → Prop) (inside : Char → Prop) (ahead : List Char)
    (cursor : Cursor) (answer : String × Cursor) : Prop
    extends Scans test inside ahead cursor answer.1.toList answer.2 where
  line_eq : answer.2.line = cursor.line
  column_eq : answer.2.column = cursor.column + answer.1.length
  stays : answer.1 = "" → answer.2 = cursor

section Scans

variable {test : String → Prop} {inside : Char → Prop} {member : Char → Bool}

theorem scans_takeRun (decides : Decides test member) (class_iff : ∀ c, member c = true ↔ inside c)
    (cursor : Cursor) :
    Scans test inside cursor.rest cursor (cursor.rest.takeWhile member)
      (cursor.takeRun member).2 where
  longest := by
    have same : inside = fun c => member c = true := funext fun c => propext (class_iff c).symm
    rw [same]
    exact longestRun_takeWhile member cursor.rest
  loop_iff := fun turns stop => loopRuns_iff decides cursor stop turns
  offset_eq := offset_takeRun member cursor
  rest_eq := rest_advanceBy _ cursor
  stops := by
    intro c shows
    rw [current?, rest_takeRun] at shows
    have outside := head?_dropWhile_false member cursor.rest c shows
    rw [← class_iff, outside]
    exact Bool.false_ne_true

theorem scansOnLine_takeRun (run : RunClass member) (decides : Decides test member)
    (class_iff : ∀ c, member c = true ↔ inside c) (cursor : Cursor) :
    ScansOnLine test inside cursor.rest cursor (cursor.takeRun member) := by
  have chars : (cursor.takeRun member).1.toList = cursor.rest.takeWhile member :=
    String.toList_ofList
  have moved := takeRun_on_line run cursor
  rw [← chars, String.length_toList] at moved
  refine ⟨by rw [chars]; exact scans_takeRun decides class_iff cursor, ?_, ?_, ?_⟩
  · rw [moved]
  · rw [moved]
  · intro empty
    have nothing : cursor.rest.takeWhile member = [] := by rw [← chars, empty]; rfl
    rw [takeRun, nothing]
    rfl

end Scans

/-! ## Tokens placed where the cursor stops -/

/-- The token that a scan has read, found back from where the scan has stopped. -/
def scannedToken (kind : Kind) (answer : String × Cursor) : Token :=
  ⟨kind, answer.1, answer.2.line, answer.2.column - answer.1.length⟩

/-- A sign with `=` behind it is placed from its second character, which is read first. -/
def readSign (alone withEqual : Kind) (sign : Char) (here : Cursor) : Token × Cursor :=
  if here.peek? = some '=' then
    (⟨withEqual, String.ofList [sign, '='], here.advance.line, (here.advance.column : Int) - 1⟩,
      here.advance.advance)
  else (⟨alone, String.ofList [sign], here.line, here.column⟩, here.advance)

def readVisible (here : Cursor) : Token × Cursor :=
  match here.current? with
  | none => (⟨.eof, "", here.line, (here.column : Int) - 1⟩, here.advance)
  | some c =>
    if c = '=' then readSign .assign .eq c here
    else if c = '!' then readSign .bang .notEq c here
    else
      match symbolKind? c with
      | some kind => (⟨kind, String.ofList [c], here.line, here.column⟩, here.advance)
      | none =>
        if isLetter c then
          let word := here.takeRun isLetter
          (scannedToken (wordKind word.1) word, word.2)
        else if isDigit c then
          let number := here.takeRun isDigit
          (scannedToken .int number, number.2)
        else (⟨.illegal, String.ofList [c], here.line, (here.column : Int) - 1⟩, here.advance)

/-- Reads a token with each place taken from the cursor as it stands when the token is made. -/
def readToken (cursor : Cursor) : Token × Cursor :=
  readVisible cursor.skipLayout

def readLexeme (here : Cursor) (lexeme : Lexeme) : Token × Cursor :=
  (⟨lexeme.kind, String.ofList lexeme.chars, here.line, lexeme.kind.reportedColumn here.column⟩,
    here.advanceBy lexeme.chars.length)

theorem reportedColumn_of_upright {kind : Kind} (upright : ¬ kind.LeansLeft) (column : Nat) :
    kind.reportedColumn column = column :=
  if_neg upright

theorem readLexeme_of_run {member : Char → Bool} (run : RunClass member) (here : Cursor)
    {kind : Kind} (upright : ¬ kind.LeansLeft) :
    here.readLexeme ⟨kind, here.rest.takeWhile member⟩
      = (scannedToken kind (here.takeRun member), (here.takeRun member).2) := by
  have moved := takeRun_on_line run here
  have line : (here.takeRun member).2.line = here.line := by rw [moved]
  have column : (here.takeRun member).2.column
      = here.column + (here.rest.takeWhile member).length := by rw [moved]
  have length : (here.takeRun member).1.length = (here.rest.takeWhile member).length :=
    String.length_ofList
  have started : ((here.takeRun member).2.column : Int) - (here.takeRun member).1.length
      = here.column := by omega
  rw [scannedToken, line, started, readLexeme, reportedColumn_of_upright upright]
  rfl

theorem readLexeme_ofSign {alone withEqual : Kind} (single : ¬ alone.LeansLeft)
    (double : ¬ withEqual.LeansLeft) {here : Cursor} {sign : Char} {rest : List Char}
    (ahead : here.rest = sign :: rest) (visible : sign ≠ '\n') :
    here.readLexeme (.ofSign alone withEqual sign rest)
      = readSign alone withEqual sign here := by
  have peeked : here.peek? = rest.head? := by rw [peek?, ahead, List.tail_cons]
  have moved : here.advance = ⟨here.offset + 1, here.line, here.column + 1, rest⟩ := by
    simp [advance, ahead, visible]
  rw [readSign, peeked, Lexeme.ofSign]
  split
  · have back : ((here.column + 1 : Nat) : Int) - 1 = here.column := by omega
    simp only [readLexeme, reportedColumn_of_upright double, moved, back]
    rw [← moved]
    rfl
  · rw [readLexeme, reportedColumn_of_upright single]
    rfl

theorem wordKind_upright (word : String) : ¬ (wordKind word).LeansLeft := by
  have others : ∀ entry ∈ keywords, ¬ (entry.2 = .illegal ∨ entry.2 = .eof) := by decide
  rcases (readsAs_iff word (wordKind word)).mpr rfl with listed | ⟨name, _⟩
  · exact others _ listed
  · simp [Kind.LeansLeft, name]

theorem symbolKind?_upright {c : Char} {kind : Kind} (found : symbolKind? c = some kind) :
    ¬ kind.LeansLeft := by
  have others : ∀ entry ∈ symbols, ¬ (entry.2 = .illegal ∨ entry.2 = .eof) := by decide
  exact others _ ((symbolKind?_eq_some_iff c kind).mp found)

theorem readLexeme_lexeme (here : Cursor) : here.readLexeme here.lexeme = readVisible here := by
  cases ahead : here.rest with
  | nil =>
    have none : here.current? = none := by rw [current?, ahead, List.head?_nil]
    simp only [readVisible, none, lexeme, ahead, advance_of_ended here ahead]
    rfl
  | cons c rest =>
    have shows : here.current? = some c := by rw [current?, ahead, List.head?_cons]
    simp only [readVisible, shows, lexeme, ahead, Lexeme.starting]
    by_cases equal : c = '='
    · rw [if_pos equal, if_pos equal]
      exact readLexeme_ofSign (by simp [Kind.LeansLeft]) (by simp [Kind.LeansLeft]) ahead
        (by simp [equal])
    rw [if_neg equal, if_neg equal]
    by_cases bang : c = '!'
    · rw [if_pos bang, if_pos bang]
      exact readLexeme_ofSign (by simp [Kind.LeansLeft]) (by simp [Kind.LeansLeft]) ahead
        (by simp [bang])
    rw [if_neg bang, if_neg bang]
    cases found : symbolKind? c with
    | some kind =>
      simp only [readLexeme, reportedColumn_of_upright (symbolKind?_upright found)]
      rfl
    | none =>
      by_cases letter : isLetter c = true
      · have word : (here.rest.takeWhile isLetter) = c :: rest.takeWhile isLetter := by
          rw [ahead, List.takeWhile_cons_of_pos letter]
        simp only [if_pos letter, ← word]
        exact readLexeme_of_run RunClass.letter here (wordKind_upright _)
      rw [if_neg letter, if_neg letter]
      by_cases digit : isDigit c = true
      · have number : (here.rest.takeWhile isDigit) = c :: rest.takeWhile isDigit := by
          rw [ahead, List.takeWhile_cons_of_pos digit]
        simp only [if_pos digit, ← number]
        exact readLexeme_of_run RunClass.digit here (by simp [Kind.LeansLeft])
      rw [if_neg digit, if_neg digit]
      rfl

theorem next_eq_readToken (cursor : Cursor) : cursor.next = cursor.readToken :=
  readLexeme_lexeme cursor.skipLayout

/-! ## Cursors of a session -/

/-- From every cursor of a session the loops end, behind the longest runs of letters, of digits and
of layout; the next token is placed where its reading stops, and it is the end of the text or moves
the cursor on. -/
theorem loops_scan_longest_runs (source : String) (steps : List Step) :
    let cursor := (ofSource source).after steps
    let ahead := source.toList.drop cursor.offset
    ScansOnLine IsWordText (fun c => c.isAlpha = true ∨ c = '_') ahead cursor
        (cursor.takeRun isLetter) ∧
      ScansOnLine IsNumberText (fun c => c.isDigit = true) ahead cursor (cursor.takeRun isDigit) ∧
      (∃ skipped, Scans IsLayoutText (fun c => c = ' ' ∨ c = '\t' ∨ c = '\n' ∨ c = '\r') ahead
        cursor skipped cursor.skipLayout) ∧
      cursor.next = cursor.readToken ∧
      ((cursor.next.1.kind = .eof ∧ cursor.next.2.offset = source.toList.length) ∨
        (cursor.next.1.kind ≠ .eof ∧ cursor.offset < cursor.next.2.offset)) := by
  intro cursor ahead
  have reached : (ofSource source).Reaches cursor := reaches_after _ steps
  have stands : cursor.rest = ahead := by
    obtain ⟨before, rest, whole, stands⟩ := after_ofSource source steps
    simp only [cursor, ahead, stands, whole, behind, List.drop_left]
  rw [← stands]
  refine ⟨scansOnLine_takeRun RunClass.letter decides_word isLetter_iff cursor,
    scansOnLine_takeRun RunClass.digit decides_number isDigit_iff cursor,
    ⟨_, scans_takeRun decides_layout isLayout_iff cursor⟩, next_eq_readToken cursor, ?_⟩
  by_cases ended : cursor.next.1.kind = .eof
  · have total := (reached.trans (reaches_next cursor)).offset_add_length
    rw [rest_of_read_end cursor ended] at total
    exact Or.inl ⟨ended, by simpa [ofSource, ofChars] using total⟩
  · have total := (reaches_next cursor).offset_add_length
    have shorter := rest_next_lt cursor ended
    exact Or.inr ⟨ended, by omega⟩

end Cursor

end MonkeySyntax
