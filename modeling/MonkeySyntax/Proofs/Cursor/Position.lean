import Mathlib.Data.List.DropRight
import Mathlib.Logic.Function.Iterate
import MonkeySyntax.Cursor.Session

/-!
# Where a cursor stands

`behind before rest` is the only cursor with `rest` ahead of it that has passed `before`.  One
advance moves one character from `rest` to `before`; every operation of a session is a number of
advances, so all cursors of a session have this form.
-/

set_option autoImplicit false

namespace MonkeySyntax

/-- The characters behind the last line feed of a text. -/
def openLine (chars : List Char) : List Char :=
  chars.rtakeWhile (fun c => c ≠ '\n')

theorem openLine_concat (before : List Char) (c : Char) :
    openLine (before ++ [c]) = if c = '\n' then [] else openLine before ++ [c] := by
  by_cases newline : c = '\n'
  · simp [openLine, newline]
  · simp [openLine, newline, List.rtakeWhile_concat_pos]

theorem openLine_eq_self (chars : List Char) (single : '\n' ∉ chars) : openLine chars = chars := by
  apply List.rtakeWhile_eq_self_iff.mpr
  intro c member
  simpa using ne_of_mem_of_not_mem member single

theorem openLine_append (before chars : List Char) :
    openLine (before ++ chars)
      = if '\n' ∈ chars then openLine chars else openLine before ++ chars := by
  induction chars using List.reverseRecOn with
  | nil => simp
  | append_singleton chars c ih =>
    rw [← List.append_assoc, openLine_concat, openLine_concat, ih]
    by_cases newline : c = '\n'
    · simp [newline]
    · by_cases earlier : '\n' ∈ chars
      · simp [newline, earlier]
      · simp [newline, Ne.symm newline, earlier]

def LastNewline (chars : List Char) (i : Nat) : Prop :=
  chars[i]? = some '\n' ∧ '\n' ∉ chars.drop (i + 1)

theorem exists_lastNewline (chars : List Char) (present : '\n' ∈ chars) :
    ∃ i, LastNewline chars i := by
  induction chars with
  | nil => simp at present
  | cons c rest ih =>
    by_cases later : '\n' ∈ rest
    · obtain ⟨i, found, last⟩ := ih later
      exact ⟨i + 1, by simpa using found, by simpa using last⟩
    · have here : c = '\n' := by
        rcases List.mem_cons.mp present with same | member
        · exact same.symm
        · exact absurd member later
      exact ⟨0, by simp [here], by simpa using later⟩

theorem length_openLine_add (chars : List Char) (i : Nat) (last : LastNewline chars i) :
    (openLine chars).length + (i + 1) = chars.length := by
  obtain ⟨found, single⟩ := last
  obtain ⟨bound, here⟩ := List.getElem?_eq_some_iff.mp found
  have split : chars = (chars.take i ++ ['\n']) ++ chars.drop (i + 1) := by
    rw [← here, List.take_append_getElem bound, List.take_append_drop]
  have behind : openLine chars = chars.drop (i + 1) := by
    rw [split, openLine_append, if_neg single, openLine_concat, if_pos rfl, ← split]
    rfl
  rw [behind, List.length_drop]
  omega

namespace Cursor

/-- The cursor that has passed `before` and has `rest` ahead of it. -/
def behind (before rest : List Char) : Cursor :=
  ⟨before.length, 1 + before.count '\n', 1 + (openLine before).length, rest⟩

theorem ofChars_eq_behind (source : List Char) : ofChars source = behind [] source :=
  rfl

theorem advance_behind_cons (before : List Char) (c : Char) (rest : List Char) :
    (behind before (c :: rest)).advance = behind (before ++ [c]) rest := by
  by_cases newline : c = '\n'
  · simp [advance, behind, newline, openLine_concat, Nat.add_assoc]
  · simp [advance, behind, newline, openLine_concat, Nat.add_assoc]

theorem advance_of_ended (cursor : Cursor) (ended : cursor.rest = []) :
    cursor.advance = cursor := by
  simp [advance, ended]

theorem advanceBy_of_ended (cursor : Cursor) (ended : cursor.rest = []) (count : Nat) :
    cursor.advanceBy count = cursor := by
  induction count with
  | zero => rfl
  | succ count ih => rw [advanceBy, advance_of_ended cursor ended, ih]

theorem advanceBy_add (first second : Nat) (cursor : Cursor) :
    cursor.advanceBy (first + second) = (cursor.advanceBy first).advanceBy second := by
  induction first generalizing cursor with
  | zero => rw [Nat.zero_add, advanceBy]
  | succ first ih => rw [Nat.succ_add, advanceBy, ih, advanceBy]

theorem advanceBy_behind (before rest : List Char) (count : Nat) :
    (behind before rest).advanceBy count
      = behind (before ++ rest.take count) (rest.drop count) := by
  induction count generalizing before rest with
  | zero => simp [advanceBy]
  | succ count ih =>
    cases rest with
    | nil => rw [advanceBy_of_ended _ rfl]; simp
    | cons c rest => rw [advanceBy, advance_behind_cons, ih]; simp

theorem advanceBy_behind_append (before run rest : List Char) :
    (behind before (run ++ rest)).advanceBy run.length = behind (before ++ run) rest := by
  rw [advanceBy_behind, List.take_left, List.drop_left]

theorem takeRun_behind (member : Char → Bool) (before rest : List Char) :
    (behind before rest).takeRun member
      = (String.ofList (rest.takeWhile member),
          behind (before ++ rest.takeWhile member) (rest.dropWhile member)) := by
  have split := List.takeWhile_append_dropWhile (p := member) (l := rest)
  have moved := advanceBy_behind_append before (rest.takeWhile member) (rest.dropWhile member)
  rw [split] at moved
  rw [takeRun]
  exact Prod.ext rfl moved

theorem skipLayout_behind (before rest : List Char) :
    (behind before rest).skipLayout
      = behind (before ++ rest.takeWhile isLayout) (rest.dropWhile isLayout) := by
  rw [skipLayout, takeRun_behind]

/-! ## Sessions -/

def Reaches (cursor later : Cursor) : Prop :=
  ∃ count, later = cursor.advanceBy count

theorem Reaches.refl (cursor : Cursor) : cursor.Reaches cursor :=
  ⟨0, rfl⟩

theorem Reaches.trans {first second third : Cursor} (start : first.Reaches second)
    (finish : second.Reaches third) : first.Reaches third := by
  obtain ⟨m, rfl⟩ := start
  obtain ⟨n, rfl⟩ := finish
  exact ⟨m + n, (advanceBy_add m n first).symm⟩

theorem reaches_skipLayout (cursor : Cursor) : cursor.Reaches cursor.skipLayout :=
  ⟨_, rfl⟩

theorem reaches_next (cursor : Cursor) : cursor.Reaches cursor.next.2 :=
  (reaches_skipLayout cursor).trans ⟨_, rfl⟩

theorem reaches_tokens (cursor : Cursor) : cursor.Reaches cursor.tokens.2 := by
  fun_induction tokens cursor with
  | case1 cursor step ended => exact reaches_next cursor
  | case2 cursor step more later ih => exact (reaches_next cursor).trans ih

theorem reaches_take (count : Nat) (cursor : Cursor) : cursor.Reaches (cursor.take count).2 := by
  fun_induction take count cursor with
  | case1 cursor => exact Reaches.refl cursor
  | case2 count cursor step ended => exact reaches_next cursor
  | case3 count cursor step more later ih => exact (reaches_next cursor).trans ih

theorem reaches_step (cursor : Cursor) (operation : Step) :
    cursor.Reaches (cursor.step operation).2 := by
  cases operation with
  | next => exact reaches_next cursor
  | drain => exact reaches_tokens cursor
  | take count => exact reaches_take count cursor
  | advance => exact ⟨1, rfl⟩
  | peek => exact Reaches.refl cursor
  | skipLayout => exact reaches_skipLayout cursor
  | readWord => exact ⟨_, rfl⟩
  | readNumber => exact ⟨_, rfl⟩

theorem reaches_after (cursor : Cursor) (steps : List Step) :
    cursor.Reaches (cursor.after steps) := by
  induction steps generalizing cursor with
  | nil => exact Reaches.refl cursor
  | cons operation steps ih => exact (reaches_step cursor operation).trans (ih _)

/-- Every cursor of a session stands between two parts of the text. -/
theorem after_ofSource (source : String) (steps : List Step) :
    ∃ before rest, source.toList = before ++ rest ∧
      (ofSource source).after steps = behind before rest := by
  obtain ⟨count, moved⟩ := reaches_after (ofSource source) steps
  refine ⟨source.toList.take count, source.toList.drop count, ?_, ?_⟩
  · rw [List.take_append_drop]
  · rw [moved, ofSource, ofChars_eq_behind, advanceBy_behind, List.nil_append]

/-! ## The closed form of the counters -/

/-- Everything a cursor shows, said by its offset in the text alone. -/
structure Placed (source : List Char) (cursor : Cursor) : Prop where
  offset_le : cursor.offset ≤ source.length
  readOffset_eq : cursor.readOffset = cursor.offset + 1
  rest_eq : cursor.rest = source.drop cursor.offset
  current_eq : ∀ bound : cursor.offset < source.length,
    cursor.current? = some source[cursor.offset]
  current_eq_none_iff : cursor.current? = none ↔ cursor.offset = source.length
  line_eq : cursor.line = 1 + (source.take cursor.offset).count '\n'
  column_eq :
    (∃ i, LastNewline (source.take cursor.offset) i ∧ cursor.column + i = cursor.offset) ∨
      ('\n' ∉ source.take cursor.offset ∧ cursor.column = cursor.offset + 1)

theorem column_behind (before rest : List Char) :
    (∃ i, LastNewline before i ∧ (behind before rest).column + i = before.length) ∨
      ('\n' ∉ before ∧ (behind before rest).column = before.length + 1) := by
  by_cases present : '\n' ∈ before
  · obtain ⟨i, last⟩ := exists_lastNewline before present
    have tail := length_openLine_add before i last
    refine Or.inl ⟨i, last, ?_⟩
    simp only [behind]
    omega
  · refine Or.inr ⟨present, ?_⟩
    simp only [behind, openLine_eq_self before present]
    omega

theorem placed_behind (before rest : List Char) : Placed (before ++ rest) (behind before rest) where
  offset_le := by simp [behind]
  readOffset_eq := rfl
  rest_eq := by simp [behind]
  current_eq := by
    intro bound
    cases rest with
    | nil => simp [behind] at bound
    | cons c rest => simp [behind, current?]
  current_eq_none_iff := by simp [behind, current?]
  line_eq := by simp [behind]
  column_eq := by simpa [behind] using column_behind before rest

theorem offset_le_advanceBy (count : Nat) (before rest : List Char) :
    (behind before rest).offset ≤ ((behind before rest).advanceBy count).offset := by
  rw [advanceBy_behind]
  simp [behind]

/-! ## Reading by indices -/

def textOf (char? : Option Char) : String :=
  match char? with
  | none => ""
  | some c => String.singleton c

theorem textOf_eq_newline_iff (char? : Option Char) : textOf char? = "\n" ↔ char? = some '\n' := by
  cases char? with
  | none => decide
  | some c =>
    have newline : "\n" = String.singleton '\n' := rfl
    rw [textOf, newline, String.singleton_inj, Option.some_inj]

def shown (cursor : Cursor) : String :=
  textOf cursor.current?

/-- A reader keeps the whole source and two indices into it, one for the character that it holds and
one for the next to be read. -/
structure Reader where
  source : List Char
  position : Nat
  readPosition : Nat
  shown : String
  line : Nat
  column : Nat
deriving DecidableEq, Repr

namespace Reader

def unread (source : List Char) : Reader :=
  ⟨source, 0, 0, "", 1, 0⟩

def readChar (reader : Reader) : Reader :=
  if reader.source.length < reader.readPosition then reader
  else
    { reader with
      position := reader.readPosition
      readPosition := reader.readPosition + 1
      shown := textOf reader.source[reader.readPosition]?
      line := if reader.shown = "\n" then reader.line + 1 else reader.line
      column := (if reader.shown = "\n" then 0 else reader.column) + 1 }

end Reader

def reader (source : List Char) (cursor : Cursor) : Reader :=
  ⟨source, cursor.offset, cursor.readOffset, cursor.shown, cursor.line, cursor.column⟩

theorem readChar_unread (source : List Char) :
    (Reader.unread source).readChar = (ofChars source).reader source := by
  cases source with
  | nil => rfl
  | cons c rest => rfl

/-- One advance of a cursor is one step of its reader. -/
theorem readChar_reader (before rest : List Char) :
    ((behind before rest).reader (before ++ rest)).readChar
      = (behind before rest).advance.reader (before ++ rest) := by
  cases rest with
  | nil =>
    rw [advance_of_ended _ rfl]
    simp [reader, readOffset, behind, Reader.readChar]
  | cons c rest =>
    have next : (before ++ c :: rest)[before.length + 1]? = rest.head? := by
      rw [List.getElem?_append_right (by omega), Nat.add_sub_cancel_left, List.getElem?_cons_succ,
        List.head?_eq_getElem?]
    by_cases newline : c = '\n'
    · subst newline
      simp [reader, readOffset, behind, Reader.readChar, advance, shown, current?,
        textOf_eq_newline_iff, next]
    · simp [reader, readOffset, behind, Reader.readChar, advance, shown, current?,
        textOf_eq_newline_iff, next, newline]

theorem iterate_readChar (before rest : List Char) :
    Reader.readChar^[before.length + 1] (Reader.unread (before ++ rest))
      = (behind before rest).reader (before ++ rest) := by
  induction before using List.reverseRecOn generalizing rest with
  | nil => exact readChar_unread rest
  | append_singleton before c ih =>
    have earlier := ih (c :: rest)
    rw [List.length_append, List.length_singleton, Function.iterate_succ_apply', List.append_assoc,
      List.singleton_append, earlier, readChar_reader, advance_behind_cons]

/-- After any operations in any order the counters have their closed form, and they are those of a
reader that has read as many characters; another operation never moves the cursor back, and none
moves it at the end of the text. -/
theorem placed_after_steps (source : String) (steps : List Step) :
    Placed source.toList ((ofSource source).after steps) ∧
      Reader.readChar^[((ofSource source).after steps).offset + 1] (.unread source.toList)
        = ((ofSource source).after steps).reader source.toList ∧
      ∀ operation : Step,
        ((ofSource source).after steps).offset
            ≤ (((ofSource source).after steps).step operation).2.offset ∧
          (((ofSource source).after steps).offset = source.toList.length →
            (((ofSource source).after steps).step operation).2
              = (ofSource source).after steps) := by
  obtain ⟨before, rest, whole, stands⟩ := after_ofSource source steps
  rw [whole, stands]
  refine ⟨placed_behind before rest, iterate_readChar before rest, fun operation => ?_⟩
  obtain ⟨count, moved⟩ := reaches_step (behind before rest) operation
  rw [moved]
  refine ⟨offset_le_advanceBy count before rest, fun atEnd => ?_⟩
  have ended : rest = [] := by simpa [behind] using atEnd
  exact advanceBy_of_ended _ ended count

end Cursor

end MonkeySyntax
