import MonkeySyntax.CommandLine.Plan

/-!
# Command lines that name a file

A command line that ends in a path asks for the command on just this path, or for no command at all:
the path may be taken for an option, but it is never taken for another path.
-/

set_option autoImplicit false

namespace MonkeySyntax.CommandLine

/-! ## Words keep their texts -/

theorem text_classifyLoose {flags : List Flag} {text : String} {word : Word}
    (found : classifyLoose flags text = .ok word) : word.text = text := by
  unfold classifyLoose at found
  split at found
  · rw [← Except.ok.inj found, Word.text]
  · split at found
    · rw [← Except.ok.inj found, Word.text]
    · rw [← Except.ok.inj found, Word.text]
  · contradiction

theorem text_classify {flags : List Flag} {text : String} {word : Word}
    (found : classify flags text = .ok word) : word.text = text := by
  unfold classify at found
  split at found
  · rw [← Except.ok.inj found, Word.text]
  · split at found
    · rw [← Except.ok.inj found, Word.text]
    · split at found
      · rw [← Except.ok.inj found, Word.text]
      · split at found
        · split at found
          · rw [← Except.ok.inj found, Word.text]
          · exact text_classifyLoose found
        · exact text_classifyLoose found

theorem map_text_classifyAll {flags : List Flag} {texts : List String} {words : List Word}
    (found : classifyAll flags texts = .ok words) : words.map Word.text = texts := by
  induction texts generalizing words with
  | nil => rw [← Except.ok.inj found, List.map_nil]
  | cons text texts ih =>
    unfold classifyAll at found
    split at found
    · rename_i isTerminator
      rw [← Except.ok.inj found, List.map_cons, List.map_map, isTerminator]
      simp [Function.comp_def, Word.text]
    · split at found
      · contradiction
      · contradiction
      · rename_i first others here later
        rw [← Except.ok.inj found, List.map_cons, text_classify here, ih later]

theorem exists_classifyAll_singleton {flags : List Flag} {text : String} {words : List Word}
    (found : classifyAll flags [text] = .ok words) : ∃ word, words = [word] ∧ word.text = text := by
  have texts := map_text_classifyAll found
  obtain ⟨word, rfl, same⟩ := List.map_eq_singleton_iff.mp texts
  exact ⟨word, rfl, same⟩

theorem classify_undashed (flags : List Flag) {text : String}
    (undashed : text.toList.head? ≠ some '-') : classify flags text = .ok (.operand text) := by
  rw [classify, if_pos undashed]

theorem classifyAll_operands (flags : List Flag) {texts : List String}
    (undashed : ∀ text ∈ texts, text.toList.head? ≠ some '-') :
    classifyAll flags texts = .ok (texts.map .operand) := by
  induction texts with
  | nil => rfl
  | cons text texts ih =>
    obtain ⟨here, later⟩ := List.forall_mem_cons.mp undashed
    have other : text ≠ "--" := by
      rintro rfl
      exact here rfl
    rw [classifyAll, if_neg other, classify_undashed flags here, ih later]
    rfl

theorem classifyAll_undashed (flags : List Flag) {text : String}
    (undashed : text.toList.head? ≠ some '-') :
    classifyAll flags [text] = .ok [.operand text] := by
  apply classifyAll_operands
  simpa using undashed

/-! ## Options find no operand -/

theorem operands_applyFlag {reading later : Reading} {flag : Flag}
    (applied : applyFlag reading flag = .ok later) : later.operands = reading.operands := by
  unfold applyFlag at applied
  split at applied
  · contradiction
  · contradiction
  · rw [← Except.ok.inj applied, Reading.addOption]

theorem operands_applyValue {reading later : Reading} {flag : Flag} {value : String}
    (applied : applyValue reading flag value = .ok later) :
    later.operands = reading.operands := by
  unfold applyValue at applied
  split at applied
  · split at applied
    · rw [← Except.ok.inj applied, Reading.addOption]
    · contradiction
  · rw [← Except.ok.inj applied, Reading.addOption]

theorem operands_applyFlags {reading later : Reading} {flags : List Flag}
    (applied : flags.foldlM applyFlag reading = .ok later) :
    later.operands = reading.operands := by
  induction flags generalizing reading with
  | nil => rw [← Except.ok.inj applied]
  | cons flag flags ih =>
    rw [List.foldlM_cons] at applied
    cases first : applyFlag reading flag with
    | error stop =>
      rw [first] at applied
      contradiction
    | ok next =>
      rw [first] at applied
      exact (ih applied).trans (operands_applyFlag first)

theorem operands_applyAttached {flags : List Flag} {reading later : Reading} {flag : Flag}
    {attached : Attached} (applied : applyAttached flags reading flag attached = .ok later) :
    later.operands = reading.operands := by
  unfold applyAttached at applied
  split at applied
  · contradiction
  · contradiction
  · split at applied
    · contradiction
    · exact operands_applyFlags applied

theorem operands_applyAttachedValue {reading later : Reading} {flag : Flag} {attached : Attached}
    (applied : applyAttachedValue reading flag attached = .ok later) :
    later.operands = reading.operands := by
  unfold applyAttachedValue at applied
  split at applied
  · rw [← Except.ok.inj applied, Reading.addOption]
  · exact operands_applyValue applied

section OneOperand

variable {grammar : Grammar} {title : String}

theorem takeWords_operand (one : grammar.operands = .one title) (reading : Reading)
    (vacant : reading.operands = []) (text : String) :
    takeWords grammar reading [.operand text] = .ok { reading with operands := [text] } := by
  simp [takeWords, isOpen, one, vacant]

theorem operand_of_takeWords (one : grammar.operands = .one title) {reading later : Reading}
    (vacant : reading.operands = []) {word : Word}
    (taken : takeWords grammar reading [word] = .ok later) (filled : later.operands ≠ []) :
    later = { reading with operands := [word.text] } := by
  cases word with
  | operand text =>
    rw [takeWords_operand one reading vacant] at taken
    exact (Except.ok.inj taken).symm
  | terminator =>
    rw [takeWords, takeWords] at taken
    · exact absurd vacant (by rw [← Except.ok.inj taken] at filled; exact filled)
    · simp
  | unknown text =>
    rw [takeWords, takeWords] at taken
    exact absurd vacant (by rw [← Except.ok.inj taken] at filled; exact filled)
  | flag text flag attached? =>
    have kept : later.operands = reading.operands := by
      unfold takeWords at taken
      split at taken
      · split at taken
        · contradiction
        · rename_i applied
          rw [← Except.ok.inj taken, operands_applyFlag applied]
      · split at taken
        · contradiction
        · rename_i applied
          rw [← Except.ok.inj taken, operands_applyAttached applied]
      · split at taken
        · contradiction
        · rename_i applied
          rw [← Except.ok.inj taken, operands_applyAttachedValue applied]
      · contradiction
    exact absurd (kept.trans vacant) filled

/-- A last word on which reading comes out complete is the operand. -/
theorem reading_of_complete (one : grammar.operands = .one title) {reading later : Reading}
    (vacant : reading.operands = []) {path : String} {words : List Word}
    (classified : classifyAll grammar.flags [path] = .ok words)
    (taken : takeWords grammar reading words = .ok later)
    (complete : missingTitle? grammar.operands later = none) :
    later = { reading with operands := [path] } := by
  obtain ⟨word, rfl, rfl⟩ := exists_classifyAll_singleton classified
  have filled : later.operands ≠ [] := by
    intro none
    simp [missingTitle?, one, none] at complete
  exact operand_of_takeWords one vacant taken filled

end OneOperand

/-! ## From readings to plans -/

theorem read_eq_ok_iff (grammar : Grammar) (texts : List String) (reading : Reading) :
    grammar.read texts = .ok reading ↔
      ∃ words, classifyAll grammar.flags texts = .ok words ∧
        takeWords grammar {} words = .ok reading ∧
        missingTitle? grammar.operands reading = none := by
  unfold Grammar.read
  constructor
  · intro read
    split at read
    · contradiction
    · rename_i words classified
      split at read
      · contradiction
      · rename_i taken
        split at read
        · contradiction
        · rename_i complete
          obtain rfl := Except.ok.inj read
          exact ⟨words, classified, taken, complete⟩
  · rintro ⟨words, classified, taken, complete⟩
    simp only [classified, taken, complete]

/-- The grammar reads the words as the reading, if at all; and it does so if no dash stands at the
beginning of the path. -/
structure ReadsPath (grammar : Grammar) (texts : List String) (path : String)
    (reading : Reading) : Prop where
  only : ∀ other, grammar.read texts = .ok other → other = reading
  undashed : path.toList.head? ≠ some '-' → grammar.read texts = .ok reading

theorem readsPath_singleton {grammar : Grammar} {title : String}
    (one : grammar.operands = .one title) (path : String) :
    ReadsPath grammar [path] path { operands := [path] } where
  only := by
    intro other read
    obtain ⟨words, classified, taken, complete⟩ := (read_eq_ok_iff _ _ _).mp read
    exact reading_of_complete one rfl classified taken complete
  undashed := by
    intro undashed
    refine (read_eq_ok_iff _ _ _).mpr ⟨_, classifyAll_undashed _ undashed, ?_, ?_⟩
    · exact takeWords_operand one {} rfl path
    · simp [missingTitle?, one]

section Asking

variable {name path : String} {texts : List String} {grammar : Grammar}
  {make : Reading → Except Breakdown Command} {reading : Reading} {command : Command}

end Asking

theorem Level.name_undashed (level : Level) : level.name.toList.head? ≠ some '-' := by
  cases level with
  | debug | info | warning | error => decide

theorem plan_parse_at (level : Level) {path : String}
    (undashed : path.toList.head? ≠ some '-') :
    plan ["--log-level", level.name, "parse", path] = .perform level (.parse path) := by
  have operands : classifyAll mainGrammar.flags [level.name, "parse", path]
      = .ok [.operand level.name, .operand "parse", .operand path] := by
    apply classifyAll_operands
    simp [level.name_undashed, undashed]
  have flag : classify mainGrammar.flags "--log-level"
      = .ok (.flag "--log-level" levelFlag none) := by rfl
  have classified : classifyAll mainGrammar.flags ["--log-level", level.name, "parse", path]
      = .ok [.flag "--log-level" levelFlag none, .operand level.name, .operand "parse",
          .operand path] := by
    rw [classifyAll, if_neg (by decide), flag, operands]
  have valued : applyValue {} levelFlag level.name
      = .ok { options := [(levelFlag, some level.name)] } := by
    cases level with
    | debug | info | warning | error => rfl
  have taken : takeWords mainGrammar {} [.flag "--log-level" levelFlag none, .operand level.name,
      .operand "parse", .operand path]
        = .ok { options := [(levelFlag, some level.name)], operands := ["parse", path] } := by
    have takes : levelFlag.takesValue = true := rfl
    have commands : mainGrammar.operands = .command "command" commandNames := rfl
    have listed : "parse" ∈ commandNames := by decide
    simp [takeWords, takes, valued, isOpen, commands, takeCommand, listed, Word.text]
  have read := (read_eq_ok_iff mainGrammar _ _).mpr ⟨_, classified, taken, rfl⟩
  have inner : parseGrammar.read [path] = .ok { operands := [path] } :=
    (readsPath_singleton rfl path).undashed undashed
  have asked : Reading.level
      { options := [(levelFlag, some level.name)], operands := ["parse", path] } = .ok level := by
    cases level with
    | debug | info | warning | error => rfl
  rw [plan, read]
  simp only [planCommand, inner, asked]
  rfl

end MonkeySyntax.CommandLine
