import MonkeySyntax.Text.Quoted

/-!
# Arguments

How the words of a command line are read against a grammar of options and operands.

All words are classified first: a word that starts with a dash names an option, unless it is a
single dash, looks like a negative number or holds a space.  A long option may be cut short as long
as one option alone starts that way.  Then the words are taken from left to right, and the first
complaint or request for help ends the reading.
-/

set_option autoImplicit false

namespace MonkeySyntax.CommandLine

/-- What an option does.  An option with a one-letter name takes no value. -/
inductive Effect
  | showHelp
  | showVersion
  | note
  /-- The next value is kept; where choices are listed it must be one of them. -/
  | keep (choices? : Option (List String))
deriving DecidableEq, Repr

structure Flag where
  names : List String
  effect : Effect
deriving DecidableEq, Repr

def Flag.title (flag : Flag) : String :=
  "/".intercalate flag.names

def Flag.takesValue (flag : Flag) : Bool :=
  match flag.effect with
  | .keep _ => true
  | _ => false

inductive Operands
  | none
  | one (title : String)
  /-- One of the listed commands, and behind it everything that is left. -/
  | command (title : String) (choices : List String)
deriving DecidableEq, Repr

structure Grammar where
  program : String
  usage : String
  details : String
  flags : List Flag
  operands : Operands
deriving DecidableEq, Repr

inductive Complaint
  | ambiguous (word : String) (candidates : List String)
  | ignoredValue (title value : String)
  | missingValue (title : String)
  | invalidChoice (title value : String) (choices : List String)
  | missingOperand (title : String)
  | unrecognized (words : List String)
deriving DecidableEq, Repr

def Complaint.message : Complaint → String
  | .ambiguous word candidates =>
    s!"ambiguous option: {word} could match " ++ ", ".intercalate candidates
  | .ignoredValue title value =>
    s!"argument {title}: ignored explicit argument {Text.quoted value}"
  | .missingValue title => s!"argument {title}: expected one argument"
  | .invalidChoice title value choices =>
    let listed := ", ".intercalate (choices.map Text.quoted)
    s!"argument {title}: invalid choice: {Text.quoted value} (choose from {listed})"
  | .missingOperand title => s!"the following arguments are required: {title}"
  | .unrecognized words => "unrecognized arguments: " ++ " ".intercalate words

inductive Stop
  | help
  | version
  | complaint (complaint : Complaint)
deriving DecidableEq, Repr

/-! ## Classification -/

inductive Attached
  | value (text : String)
  /-- What follows a one-letter name, without an equals sign between them. -/
  | letters (chars : List Char)
deriving DecidableEq, Repr

inductive Word
  | operand (text : String)
  | terminator
  | flag (text : String) (flag : Flag) (attached? : Option Attached)
  | unknown (text : String)
deriving DecidableEq, Repr

def Word.text : Word → String
  | .operand text => text
  | .terminator => "--"
  | .flag text _ _ => text
  | .unknown text => text

/-- Digits, or digits with one point before the last of them. -/
def isNumeral (chars : List Char) : Bool :=
  match chars.dropWhile Text.isDecimalDigit with
  | [] => !chars.isEmpty
  | '.' :: fraction => !fraction.isEmpty && fraction.all Text.isDecimalDigit
  | _ => false

/-- A dash and a numeral; a line feed may end the word. -/
def looksNegative : List Char → Bool
  | '-' :: chars =>
    isNumeral (if chars.getLast? = some '\n' then chars.dropLast else chars)
  | _ => false

def splitAtEquals (chars : List Char) : List Char × Option (List Char) :=
  match chars.dropWhile (fun c => c ≠ '=') with
  | [] => (chars, none)
  | _ :: value => (chars.takeWhile (fun c => c ≠ '='), some value)

def flagNamed? (flags : List Flag) (name : String) : Option Flag :=
  flags.find? (fun flag => flag.names.contains name)

def Attached.behind (name chars : List Char) : Attached :=
  if name.take 2 = ['-', '-'] then .value (String.ofList chars) else .letters chars

/-- The options, each with one of its spellings, that a word may mean although it is no spelling
of an option. -/
def candidates (flags : List Flag) (chars : List Char) : List (Flag × String × Option Attached) :=
  let spelled := flags.flatMap (fun flag => flag.names.map (fun name => (flag, name)))
  match chars with
  | '-' :: '-' :: _ =>
    let parts := splitAtEquals chars
    (spelled.filter (fun entry => parts.1.isPrefixOf entry.2.toList)).map
      (fun entry => (entry.1, entry.2, parts.2.map (fun value => .value (String.ofList value))))
  | _ =>
    (spelled.filter (fun entry => entry.2 = String.ofList (chars.take 2))).map
      (fun entry => (entry.1, entry.2, some (.letters (chars.drop 2))))

/-- What a word with a leading dash means that is no spelling of an option and has no spelling
before an equals sign. -/
def classifyLoose (flags : List Flag) (word : String) : Except Complaint Word :=
  match candidates flags word.toList with
  | [(flag, _, attached?)] => .ok (.flag word flag attached?)
  | [] =>
    if looksNegative word.toList || word.toList.contains ' ' then .ok (.operand word)
    else .ok (.unknown word)
  | several => .error (.ambiguous word (several.map (fun entry => entry.2.1)))

def classify (flags : List Flag) (word : String) : Except Complaint Word :=
  if word.toList.head? ≠ some '-' then .ok (.operand word)
  else
    match flagNamed? flags word with
    | some flag => .ok (.flag word flag none)
    | none =>
      if word = "-" then .ok (.operand word)
      else
        match splitAtEquals word.toList with
        | (name, some value) =>
          match flagNamed? flags (String.ofList name) with
          | some flag => .ok (.flag word flag (some (Attached.behind name value)))
          | none => classifyLoose flags word
        | (_, none) => classifyLoose flags word

/-- The words of a command line; behind the first `--` all are operands. -/
def classifyAll (flags : List Flag) : List String → Except Complaint (List Word)
  | [] => .ok []
  | word :: words =>
    if word = "--" then .ok (.terminator :: words.map Word.operand)
    else
      match classify flags word, classifyAll flags words with
      | .error complaint, _ => .error complaint
      | .ok _, .error complaint => .error complaint
      | .ok first, .ok others => .ok (first :: others)

/-! ## Reading -/

structure Reading where
  options : List (Flag × Option String) := []
  operands : List String := []
  surplus : List String := []
deriving DecidableEq, Repr

def Reading.addSurplus (reading : Reading) (words : List String) : Reading :=
  { reading with surplus := reading.surplus ++ words }

def Reading.addOption (reading : Reading) (flag : Flag) (value? : Option String) : Reading :=
  { reading with options := reading.options ++ [(flag, value?)] }

def Reading.lastValue? (reading : Reading) (name : String) : Option (Option String) :=
  (reading.options.reverse.find? (fun option => option.1.names.contains name)).map
    (fun option => option.2)

def Reading.has (reading : Reading) (name : String) : Bool :=
  reading.options.any (fun option => option.1.names.contains name)

def applyFlag (reading : Reading) (flag : Flag) : Except Stop Reading :=
  match flag.effect with
  | .showHelp => .error .help
  | .showVersion => .error .version
  | _ => .ok (reading.addOption flag none)

def applyValue (reading : Reading) (flag : Flag) (value : String) : Except Stop Reading :=
  match flag.effect with
  | .keep (some choices) =>
    if choices.contains value then .ok (reading.addOption flag (some value))
    else .error (.complaint (.invalidChoice flag.title value choices))
  | _ => .ok (reading.addOption flag (some value))

def clustered (flags : List Flag) (flag : Flag) : List Char → Except Complaint (List Flag)
  | [] => .ok [flag]
  | c :: chars =>
    match flagNamed? flags (String.ofList ['-', c]) with
    | none => .error (.ignoredValue flag.title (String.ofList (c :: chars)))
    | some next => (clustered flags next chars).map (fun others => flag :: others)

/-- Carries out an option without a value that has something attached to it.  A one-letter name is
carried out with the names behind it, once all of them are known. -/
def applyAttached (flags : List Flag) (reading : Reading) (flag : Flag) :
    Attached → Except Stop Reading
  | .value text => .error (.complaint (.ignoredValue flag.title text))
  | .letters [] => .error (.complaint (.ignoredValue flag.title ""))
  | .letters chars =>
    match clustered flags flag chars with
    | .error complaint => .error (.complaint complaint)
    | .ok found => found.foldlM applyFlag reading

def Attached.text : Attached → String
  | .value text => text
  | .letters chars => String.ofList chars

/-- Keeps the value attached to an option; a `--` there is dropped, and the option goes without. -/
def applyAttachedValue (reading : Reading) (flag : Flag) (attached : Attached) :
    Except Stop Reading :=
  if attached.text = "--" then .ok (reading.addOption flag none)
  else applyValue reading flag attached.text

def takeCommand (reading : Reading) (title : String) (choices words : List String) :
    Except Stop Reading :=
  match words with
  | [] => .error (.complaint (.missingOperand title))
  | name :: _ =>
    if choices.contains name then .ok { reading with operands := words }
    else .error (.complaint (.invalidChoice title name choices))

def isOpen (operands : Operands) (reading : Reading) : Bool :=
  reading.operands.isEmpty && operands ≠ .none

/-- Takes the words from left to right.  A `--` next to the one operand goes with it; before a
command it is taken for the command. -/
def takeWords (grammar : Grammar) (reading : Reading) : List Word → Except Stop Reading
  | [] => .ok reading
  | .unknown text :: words => takeWords grammar (reading.addSurplus [text]) words
  | .flag _ flag attached? :: words =>
    match flag.takesValue, attached? with
    | false, none =>
      match applyFlag reading flag with
      | .error stop => .error stop
      | .ok reading => takeWords grammar reading words
    | false, some attached =>
      match applyAttached grammar.flags reading flag attached with
      | .error stop => .error stop
      | .ok reading => takeWords grammar reading words
    | true, some attached =>
      match applyAttachedValue reading flag attached with
      | .error stop => .error stop
      | .ok reading => takeWords grammar reading words
    | true, none =>
      match words with
      | .operand value :: words =>
        match applyValue reading flag value with
        | .error stop => .error stop
        | .ok reading => takeWords grammar reading words
      | _ => .error (.complaint (.missingValue flag.title))
  | .operand text :: .terminator :: words =>
    if isOpen grammar.operands reading then
      match grammar.operands with
      | .command title choices =>
        takeCommand reading title choices (text :: "--" :: words.map Word.text)
      | _ => takeWords grammar { reading with operands := [text] } words
    else takeWords grammar (reading.addSurplus [text, "--"]) words
  | .operand text :: words =>
    if isOpen grammar.operands reading then
      match grammar.operands with
      | .command title choices =>
        takeCommand reading title choices (text :: words.map Word.text)
      | _ => takeWords grammar { reading with operands := [text] } words
    else takeWords grammar (reading.addSurplus [text]) words
  | .terminator :: .operand text :: words =>
    if isOpen grammar.operands reading then
      match grammar.operands with
      | .command title choices =>
        takeCommand reading title choices ("--" :: text :: words.map Word.text)
      | _ => takeWords grammar { reading with operands := [text] } words
    else takeWords grammar (reading.addSurplus ["--", text]) words
  | .terminator :: words => takeWords grammar (reading.addSurplus ["--"]) words

def missingTitle? (operands : Operands) (reading : Reading) : Option String :=
  match operands with
  | .none => none
  | .one title => if reading.operands.isEmpty then some title else none
  | .command title _ => if reading.operands.isEmpty then some title else none

def Grammar.read (grammar : Grammar) (words : List String) : Except Stop Reading :=
  match classifyAll grammar.flags words with
  | .error complaint => .error (.complaint complaint)
  | .ok words =>
    match takeWords grammar {} words with
    | .error stop => .error stop
    | .ok reading =>
      match missingTitle? grammar.operands reading with
      | some title => .error (.complaint (.missingOperand title))
      | none => .ok reading

end MonkeySyntax.CommandLine
