import MonkeySyntax.Proofs.Alphabet

/-!
# The forms of a lexeme

`Form` lists what a lexeme can be, and `Merges` says which two lexemes would be read differently if
nothing stood between them.  Whether they merge is decided by the first character of the second, and
this is what the scanner looks at.
-/

set_option autoImplicit false

namespace MonkeySyntax

/-- A visible character that belongs to no class of the alphabet. -/
structure Stray (c : Char) : Prop where
  letter : isLetter c = false
  digit : isDigit c = false
  layout : isLayout c = false
  equal : c ≠ '='
  bang : c ≠ '!'
  symbol : ∀ kind, (c, kind) ∉ symbols

namespace Lexeme

inductive Form : Lexeme → Prop
  | word (chars : List Char) (kind : Kind) (nonempty : chars ≠ [])
      (letters : ∀ c ∈ chars, isLetter c = true) (reads : ReadsAs (String.ofList chars) kind) :
      Form ⟨kind, chars⟩
  | number (chars : List Char) (nonempty : chars ≠ [])
      (digits : ∀ c ∈ chars, isDigit c = true) : Form ⟨.int, chars⟩
  | equal : Form ⟨.eq, ['=', '=']⟩
  | notEqual : Form ⟨.notEq, ['!', '=']⟩
  | assign : Form ⟨.assign, ['=']⟩
  | bang : Form ⟨.bang, ['!']⟩
  | symbol (c : Char) (kind : Kind) (listed : (c, kind) ∈ symbols) : Form ⟨kind, [c]⟩
  | stray (c : Char) (outside : Stray c) : Form ⟨.illegal, [c]⟩

def Within (member : Char → Bool) (lexeme : Lexeme) : Prop :=
  ∀ c ∈ lexeme.chars, member c = true

/-- The two are both words, both numbers, or a sign and something that starts with `=`. -/
def Merges (left right : Lexeme) : Prop :=
  (left.Within isLetter ∧ right.Within isLetter) ∨
    (left.Within isDigit ∧ right.Within isDigit) ∨
    ((left.chars = ['='] ∨ left.chars = ['!']) ∧ right.chars.head? = some '=')

/-- The character behind the lexeme would be read as a part of it. -/
def GoesOnWith (lexeme : Lexeme) (c : Char) : Prop :=
  (lexeme.Within isLetter ∧ isLetter c = true) ∨
    (lexeme.Within isDigit ∧ isDigit c = true) ∨
    ((lexeme.chars = ['='] ∨ lexeme.chars = ['!']) ∧ c = '=')

def EndsBefore (lexeme : Lexeme) (rest : List Char) : Prop :=
  ∀ c ∈ rest.head?, ¬ lexeme.GoesOnWith c

/-! ## The first character of a lexeme tells its class -/

theorem Form.nonempty {lexeme : Lexeme} (form : lexeme.Form) : lexeme.chars ≠ [] := by
  cases form with
  | word chars kind nonempty letters reads => exact nonempty
  | number chars nonempty digits => exact nonempty
  | equal | notEqual | assign | bang | symbol | stray => simp

theorem Form.isLayout_of_mem {lexeme : Lexeme} (form : lexeme.Form) (c : Char)
    (present : c ∈ lexeme.chars) : isLayout c = false := by
  cases form with
  | word chars kind nonempty letters reads =>
    exact (RunClass.letter.apart c (letters c present)).1
  | number chars nonempty digits =>
    exact (RunClass.digit.apart c (digits c present)).1
  | equal | notEqual | assign | bang =>
    have sign : c = '=' ∨ c = '!' := by
      simp only [List.mem_cons, List.not_mem_nil, or_false] at present
      tauto
    rcases sign with rfl | rfl
    · decide
    · decide
  | symbol d kind listed =>
    obtain rfl := List.mem_singleton.mp present
    exact (symbols_apart _ listed).2.2.1
  | stray d outside =>
    obtain rfl := List.mem_singleton.mp present
    exact outside.layout

theorem Form.isLayout_head {lexeme : Lexeme} (form : lexeme.Form) (c : Char) (more : List Char)
    (starts : lexeme.chars = c :: more) : isLayout c = false :=
  form.isLayout_of_mem c (by simp [starts])

theorem Form.newline_not_mem {lexeme : Lexeme} (form : lexeme.Form) : '\n' ∉ lexeme.chars := by
  intro newline
  exact absurd (form.isLayout_of_mem '\n' newline) (by decide)

/-- A lexeme is a run of a class as soon as one of its characters is in the class. -/
theorem Form.within_iff_of_mem {lexeme : Lexeme} (form : lexeme.Form) (member : Char → Bool)
    (run : RunClass member) (c : Char) (present : c ∈ lexeme.chars) :
    lexeme.Within member ↔ member c = true := by
  refine ⟨fun within => within c present, fun inside => ?_⟩
  cases form with
  | word chars kind nonempty letters reads =>
    rcases run with rfl | rfl
    · exact letters
    · rw [isDigit_of_isLetter c (letters c present)] at inside
      contradiction
  | number chars nonempty digits =>
    rcases run with rfl | rfl
    · have outside := isDigit_of_isLetter c inside
      rw [digits c present] at outside
      contradiction
    · exact digits
  | equal | notEqual | assign | bang =>
    have sign : c = '=' ∨ c = '!' := by
      simp only [List.mem_cons, List.not_mem_nil, or_false] at present
      tauto
    obtain ⟨letter, digit⟩ := sign_apart c sign
    rw [run.eq_false c letter digit] at inside
    contradiction
  | symbol d kind listed =>
    have same : c = d := List.mem_singleton.mp present
    simpa [Within, ← same] using inside
  | stray d outside =>
    have same : c = d := List.mem_singleton.mp present
    simpa [Within, ← same] using inside

theorem Form.within_iff {lexeme : Lexeme} (form : lexeme.Form) (member : Char → Bool)
    (run : RunClass member) (c : Char) (more : List Char)
    (starts : lexeme.chars = c :: more) : lexeme.Within member ↔ member c = true :=
  form.within_iff_of_mem member run c (by simp [starts])

theorem ne_sign_of_run {member : Char → Bool} (run : RunClass member) (chars : List Char)
    (inside : ∀ c ∈ chars, member c = true) : chars ≠ ['='] ∧ chars ≠ ['!'] := by
  constructor
  · rintro rfl
    exact (run.apart '=' (inside '=' (by simp))).2.2.1 rfl
  · rintro rfl
    exact (run.apart '!' (inside '!' (by simp))).2.2.2 rfl

theorem Form.isSign_iff {lexeme : Lexeme} (form : lexeme.Form) :
    (lexeme.kind = .assign ∨ lexeme.kind = .bang) ↔
      (lexeme.chars = ['='] ∨ lexeme.chars = ['!']) := by
  cases form with
  | word chars kind nonempty letters reads =>
    have kinds : ∀ entry ∈ keywords, entry.2 ≠ .assign ∧ entry.2 ≠ .bang := by decide
    have other : kind ≠ .assign ∧ kind ≠ .bang := by
      rcases reads with listed | ⟨name, _⟩
      · exact kinds _ listed
      · simp [name]
    simp [other, ne_sign_of_run .letter chars letters]
  | number chars nonempty digits => simp [ne_sign_of_run .digit chars digits]
  | equal | notEqual | assign | bang => simp
  | symbol c kind listed =>
    have kinds : ∀ entry ∈ symbols, entry.2 ≠ .assign ∧ entry.2 ≠ .bang := by decide
    obtain ⟨_, _, _, equal, bang⟩ := symbols_apart _ listed
    simp [kinds _ listed, equal, bang]
  | stray c outside => simp [outside.equal, outside.bang]

/-! ## The kind of a word tells its text -/

theorem Form.isName {lexeme : Lexeme} (form : lexeme.Form) (named : lexeme.kind = .ident) :
    IsName (String.ofList lexeme.chars) := by
  cases form with
  | word chars kind nonempty letters reads =>
    have others : ∀ entry ∈ keywords, entry.2 ≠ .ident := by decide
    rcases reads with listed | ⟨_, unreserved⟩
    · exact absurd named (others _ listed)
    · exact ⟨by rwa [String.toList_ofList], by rwa [String.toList_ofList], unreserved⟩
  | symbol c kind listed =>
    have others : ∀ entry ∈ symbols, entry.2 ≠ .ident := by decide
    exact absurd named (others _ listed)
  | number | equal | notEqual | assign | bang | stray => contradiction

theorem Form.chars_of_keyword {lexeme : Lexeme} (form : lexeme.Form) (word : String)
    (reserved : (word, lexeme.kind) ∈ keywords) : lexeme.chars = word.toList := by
  have wordsOnly : ∀ entry ∈ keywords, entry.2 ∉ symbols.map Prod.snd ∧
      entry.2 ∉ [Kind.ident, .int, .eq, .notEq, .assign, .bang, .illegal] := by decide
  obtain ⟨noSymbol, noOther⟩ := wordsOnly _ reserved
  cases form with
  | word chars kind nonempty letters reads =>
    have unique : ∀ entry ∈ keywords, ∀ other ∈ keywords,
        entry.2 = other.2 → entry.1 = other.1 := by decide
    rcases reads with listed | ⟨name, _⟩
    · have same : String.ofList chars = word := unique _ listed _ reserved rfl
      rw [← same, String.toList_ofList]
    · simp [name] at noOther
  | symbol c kind listed => exact absurd (List.mem_map_of_mem listed) noSymbol
  | number | equal | notEqual | assign | bang | stray => simp at noOther

/-! ## The second of two lexemes -/

theorem Form.merges_iff (left : Lexeme) {right : Lexeme} (form : right.Form) (c : Char)
    (more : List Char) (starts : right.chars = c :: more) :
    left.Merges right ↔ left.GoesOnWith c := by
  rw [Merges, GoesOnWith, form.within_iff isLetter .letter c more starts,
    form.within_iff isDigit .digit c more starts, starts, List.head?_cons,
    Option.some.injEq]

theorem not_goesOnWith_of_isLayout (lexeme : Lexeme) (c : Char) (layout : isLayout c = true) :
    ¬ lexeme.GoesOnWith c := by
  obtain ⟨letter, digit, equal, _⟩ := isLayout_apart c layout
  simp [GoesOnWith, letter, digit, equal]

theorem EndsBefore.stop {lexeme : Lexeme} {tail : List Char} (ends : lexeme.EndsBefore tail)
    (member : Char → Bool) (run : RunClass member)
    (within : lexeme.Within member) : ∀ c ∈ tail.head?, member c = false := by
  intro c next
  apply Bool.eq_false_iff.mpr
  intro inside
  rcases run with rfl | rfl
  · exact ends c next (Or.inl ⟨within, inside⟩)
  · exact ends c next (Or.inr (Or.inl ⟨within, inside⟩))

/-! ## The lexeme that the scanner takes -/

theorem starting_of_isLetter (c : Char) (rest : List Char) (letter : isLetter c = true) :
    starting c rest = .ofWord (c :: rest.takeWhile isLetter) := by
  obtain ⟨_, symbol, equal, bang⟩ := RunClass.letter.apart c letter
  simp [starting, equal, bang, symbol, letter]

theorem starting_of_isDigit (c : Char) (rest : List Char) (digit : isDigit c = true) :
    starting c rest = ⟨.int, c :: rest.takeWhile isDigit⟩ := by
  obtain ⟨_, symbol, equal, bang⟩ := RunClass.digit.apart c digit
  have letter : isLetter c = false := by
    apply Bool.eq_false_iff.mpr
    intro letter
    rw [isDigit_of_isLetter c letter] at digit
    contradiction
  simp [starting, equal, bang, symbol, letter, digit]

theorem starting_of_mem_symbols (c : Char) (kind : Kind) (rest : List Char)
    (listed : (c, kind) ∈ symbols) : starting c rest = ⟨kind, [c]⟩ := by
  obtain ⟨_, _, _, equal, bang⟩ := symbols_apart _ listed
  simp [starting, equal, bang, (symbolKind?_eq_some_iff c kind).mpr listed]

theorem starting_of_stray (c : Char) (rest : List Char) (outside : Stray c) :
    starting c rest = ⟨.illegal, [c]⟩ := by
  have unlisted : symbolKind? c = none := by
    cases found : symbolKind? c with
    | none => rfl
    | some kind => exact absurd ((symbolKind?_eq_some_iff c kind).mp found) (outside.symbol kind)
  simp [starting, outside.equal, outside.bang, unlisted, outside.letter, outside.digit]

/-- What has the form of a lexeme and ends where the text goes on is what the scanner takes. -/
theorem starting_of_form {lexeme : Lexeme} (form : lexeme.Form) (tail : List Char)
    (ends : lexeme.EndsBefore tail) (c : Char) (rest : List Char)
    (text : lexeme.chars ++ tail = c :: rest) : starting c rest = lexeme := by
  cases form with
  | word chars kind nonempty letters reads =>
    have stop := ends.stop isLetter .letter letters
    obtain ⟨d, more, rfl⟩ := List.exists_cons_of_ne_nil nonempty
    simp only [List.cons_append, List.cons.injEq] at text
    obtain ⟨rfl, rfl⟩ := text
    have run := takeWhile_append_of_stop isLetter more tail
      (fun e member => letters e (List.mem_cons_of_mem d member)) stop
    rw [starting_of_isLetter d _ (letters d List.mem_cons_self), run, ofWord,
      (readsAs_iff _ _).mp reads]
  | number chars nonempty digits =>
    have stop := ends.stop isDigit .digit digits
    obtain ⟨d, more, rfl⟩ := List.exists_cons_of_ne_nil nonempty
    simp only [List.cons_append, List.cons.injEq] at text
    obtain ⟨rfl, rfl⟩ := text
    have run := takeWhile_append_of_stop isDigit more tail
      (fun e member => digits e (List.mem_cons_of_mem d member)) stop
    rw [starting_of_isDigit d _ (digits d List.mem_cons_self), run]
  | equal =>
    obtain ⟨rfl, rfl⟩ := List.cons.inj text
    rfl
  | notEqual =>
    obtain ⟨rfl, rfl⟩ := List.cons.inj text
    rfl
  | assign =>
    obtain ⟨rfl, rfl⟩ := List.cons.inj text
    have alone : tail.head? ≠ some '=' :=
      fun next => ends '=' next (Or.inr (Or.inr ⟨Or.inl rfl, rfl⟩))
    simp [starting, ofSign, alone]
  | bang =>
    obtain ⟨rfl, rfl⟩ := List.cons.inj text
    have alone : tail.head? ≠ some '=' :=
      fun next => ends '=' next (Or.inr (Or.inr ⟨Or.inr rfl, rfl⟩))
    simp [starting, ofSign, alone]
  | symbol d kind listed =>
    obtain ⟨rfl, rfl⟩ := List.cons.inj text
    exact starting_of_mem_symbols d kind _ listed
  | stray d outside =>
    obtain ⟨rfl, rfl⟩ := List.cons.inj text
    exact starting_of_stray d _ outside

/-! ## Every visible text starts with a lexeme -/

theorem Form.goesOnWith_iff {lexeme : Lexeme} (form : lexeme.Form) (c : Char) (more : List Char)
    (starts : lexeme.chars = c :: more) (d : Char) :
    lexeme.GoesOnWith d ↔
      (isLetter c = true ∧ isLetter d = true) ∨ (isDigit c = true ∧ isDigit d = true) ∨
        ((lexeme.chars = ['='] ∨ lexeme.chars = ['!']) ∧ d = '=') := by
  rw [GoesOnWith, form.within_iff isLetter .letter c more starts,
    form.within_iff isDigit .digit c more starts]

theorem Form.endsBefore_dropWhile (kind : Kind) (member : Char → Bool)
    (run : RunClass member) (c : Char) (rest : List Char)
    (inside : member c = true) (form : Form ⟨kind, c :: rest.takeWhile member⟩) :
    EndsBefore ⟨kind, c :: rest.takeWhile member⟩ (rest.dropWhile member) := by
  intro d next goesOn
  have outside := head?_dropWhile_false member rest d next
  obtain ⟨_, _, equal, bang⟩ := run.apart c inside
  rcases (form.goesOnWith_iff c _ rfl d).mp goesOn with
    ⟨first, second⟩ | ⟨first, second⟩ | ⟨sign, _⟩
  · rcases run with rfl | rfl
    · exact absurd second (by simp [outside])
    · exact absurd inside (by simp [isDigit_of_isLetter c first])
  · rcases run with rfl | rfl
    · exact absurd first (by simp [isDigit_of_isLetter c inside])
    · exact absurd second (by simp [outside])
  · rcases sign with same | same
    · exact equal (List.cons.inj same).1
    · exact bang (List.cons.inj same).1

theorem Form.endsBefore_single (kind : Kind) (c : Char) (letter : isLetter c = false)
    (digit : isDigit c = false) (equal : c ≠ '=') (bang : c ≠ '!') (form : Form ⟨kind, [c]⟩)
    (tail : List Char) : EndsBefore ⟨kind, [c]⟩ tail := by
  intro d _ goesOn
  have cases := (form.goesOnWith_iff c [] rfl d).mp goesOn
  simp [letter, digit, equal, bang] at cases

theorem exists_form_sign (alone withEqual : Kind) (sign : Char) (rest : List Char)
    (either : sign = '=' ∨ sign = '!') (single : Form ⟨alone, [sign]⟩)
    (double : Form ⟨withEqual, [sign, '=']⟩) :
    ∃ (lexeme : Lexeme) (tail : List Char),
      lexeme.chars ++ tail = sign :: rest ∧ lexeme.Form ∧ lexeme.EndsBefore tail := by
  obtain ⟨letter, digit⟩ := sign_apart sign either
  by_cases equalNext : rest.head? = some '='
  · obtain ⟨tail, rfl⟩ := List.head?_eq_some_iff.mp equalNext
    refine ⟨_, tail, rfl, double, fun d _ goesOn => ?_⟩
    have cases := (double.goesOnWith_iff sign ['='] rfl d).mp goesOn
    simp [letter, digit] at cases
  · refine ⟨_, rest, rfl, single, fun d next goesOn => ?_⟩
    have cases := (single.goesOnWith_iff sign [] rfl d).mp goesOn
    have equal : d = '=' := by simpa [letter, digit, either] using cases
    exact equalNext (by rw [Option.mem_def.mp next, equal])

theorem exists_form (c : Char) (rest : List Char) (visible : isLayout c = false) :
    ∃ (lexeme : Lexeme) (tail : List Char),
      lexeme.chars ++ tail = c :: rest ∧ lexeme.Form ∧ lexeme.EndsBefore tail := by
  by_cases letter : isLetter c = true
  · have form := Form.word (c :: rest.takeWhile isLetter) _ (by simp)
      (by simpa [letter] using fun d member => List.mem_takeWhile_imp member)
      ((readsAs_iff _ _).mpr rfl)
    refine ⟨_, rest.dropWhile isLetter, ?_, form,
      Form.endsBefore_dropWhile _ isLetter .letter c rest letter form⟩
    simp [List.takeWhile_append_dropWhile]
  by_cases digit : isDigit c = true
  · have form := Form.number (c :: rest.takeWhile isDigit) (by simp)
      (by simpa [digit] using fun d member => List.mem_takeWhile_imp member)
    refine ⟨_, rest.dropWhile isDigit, ?_, form,
      Form.endsBefore_dropWhile _ isDigit .digit c rest digit form⟩
    simp [List.takeWhile_append_dropWhile]
  by_cases equal : c = '='
  · subst equal
    exact exists_form_sign .assign .eq '=' rest (Or.inl rfl) .assign .equal
  by_cases bang : c = '!'
  · subst bang
    exact exists_form_sign .bang .notEq '!' rest (Or.inr rfl) .bang .notEqual
  rw [Bool.not_eq_true] at letter digit
  by_cases symbol : ∃ kind, (c, kind) ∈ symbols
  · obtain ⟨kind, listed⟩ := symbol
    have form := Form.symbol c kind listed
    exact ⟨_, rest, rfl, form, Form.endsBefore_single kind c letter digit equal bang form rest⟩
  · have outside : Stray c :=
      ⟨letter, digit, visible, equal, bang, fun kind listed => symbol ⟨kind, listed⟩⟩
    have form := Form.stray c outside
    exact ⟨_, rest, rfl, form, Form.endsBefore_single _ c letter digit equal bang form rest⟩

end Lexeme

end MonkeySyntax
