import SopDocs.CommandLine.Setting
/-!
Reading the words of a command line from left to right. The first word that is neither an option nor
a value of one names the command; options before it and after it are kept apart. The first word that
cannot be read ends the reading, and so does a question for help or for the version.
-/

namespace SopDocs.CommandLine

inductive CommandName where
  | lint
  | index
  | compareIndex
  | review
deriving DecidableEq, Inhabited

def CommandName.parse? : String → Option CommandName
  | "lint" => some .lint
  | "index" => some .index
  | "compare-index" => some .compareIndex
  | "review" => some .review
  | _ => none

/-- Why there is nothing to run. -/
inductive Stop where
  | misuse
  | help
  | version
deriving DecidableEq, Inhabited

/-- What the words so far say. -/
structure Reading where
  /-- The command, and the settings before it, once it is named. -/
  command : Option (CommandName × List Setting)
  /-- Options since the command, or since the start, with their settings. -/
  said : List (String × Setting)
  operands : List String
  /-- An option whose value is the next word. -/
  pending : Option NamedOption
  /-- Whether all further words are operands. -/
  ended : Bool

namespace Reading

def start : Reading := ⟨none, [], [], none, false⟩

def settings (reading : Reading) : List Setting := reading.said.map (·.2)

/-- The options that may be used here. -/
def options (reading : Reading) : List NamedOption :=
  match reading.command with
  | none => NamedOption.everywhere
  | some (.lint, _) => NamedOption.ofLint ++ NamedOption.everywhere
  | some (.index, _) => NamedOption.ofIndex ++ NamedOption.everywhere
  | some (.compareIndex, _) => NamedOption.everywhere
  | some (.review, _) => NamedOption.ofReview ++ NamedOption.everywhere

/-- Adds a setting; no option is used twice. -/
def add (reading : Reading) (name : String) (setting : Setting) : Except Stop Reading :=
  if reading.said.any (·.1 == name) then .error .misuse
  else .ok { reading with said := reading.said ++ [(name, setting)], pending := none }

/-- Takes a word as the value of an option. -/
def addValue (reading : Reading) (option : NamedOption) (word : String) : Except Stop Reading :=
  match option.meaning with
  | .flag _ => .error .misuse
  | .value read =>
    match read word with
    | none => .error .misuse
    | some setting => reading.add option.name setting

/-- The command that a word names. -/
def addCommand (reading : Reading) (word : String) : Except Stop Reading :=
  match CommandName.parse? word with
  | some name => .ok { start with command := some (name, reading.settings) }
  | none => .error .misuse

/-- Takes a word that is no option. No operand is empty. -/
def addOperand (reading : Reading) (word : String) : Except Stop Reading :=
  if reading.command.isSome then
    if word.isEmpty then .error .misuse
    else .ok { reading with operands := reading.operands ++ [word] }
  else if reading.ended then .error .misuse
  else reading.addCommand word

/-- Takes an option by its long name, with the value after an equals sign. -/
def addLong (reading : Reading) (name : String) (attached : Option String) : Except Stop Reading :=
  match reading.options.find? (·.name == name), attached with
  | some option, some word => reading.addValue option word
  | some option, none =>
    match option.meaning with
    | .flag setting => reading.add name setting
    | .value _ => .ok { reading with pending := some option }
  | none, none =>
    if name = "help" then .error .help
    else if name = "version" ∧ reading.command.isNone then .error .version
    else .error .misuse
  | none, some _ => .error .misuse

/-- Takes options by their letters. What follows the letter of an option with a value is the value;
an equals sign before it does not count. -/
def addLetters (reading : Reading) : List Char → Except Stop Reading
  | [] => .ok reading
  | letter :: rest =>
    match reading.options.find? (·.letter == some letter) with
    | some option =>
      match option.meaning, rest with
      | .flag setting, rest =>
        match reading.add option.name setting with
        | .ok reading => addLetters reading rest
        | .error stop => .error stop
      | .value _, [] => .ok { reading with pending := some option }
      | .value _, '=' :: value => reading.addValue option (String.ofList value)
      | .value _, value => reading.addValue option (String.ofList value)
    | none =>
      if letter = 'h' then .error .help
      else if letter = 'V' ∧ reading.command.isNone then .error .version
      else .error .misuse

/-- Reads one word. -/
def step (reading : Reading) (word : String) : Except Stop Reading :=
  if reading.ended then reading.addOperand word
  else
    match word.toList, reading.pending with
    | '-' :: _ :: _, some _ => .error .misuse
    | _, some option => reading.addValue option word
    | ['-', '-'], none => .ok { reading with ended := true }
    | '-' :: '-' :: rest, none =>
      let name := rest.takeWhile (· != '=')
      match rest.drop name.length with
      | [] => reading.addLong (String.ofList name) none
      | _ :: value => reading.addLong (String.ofList name) (some (String.ofList value))
    | '-' :: letter :: rest, none => reading.addLetters (letter :: rest)
    | _, none => reading.addOperand word

/-- The word that asks for help where a command could stand. -/
def helpWord : String := "help"

/-- Whether a word asks for help. -/
def asksHelp (reading : Reading) (word : String) : Bool :=
  reading.command.isNone && reading.pending.isNone && !reading.ended && word == helpWord

/-- What a question for help comes to: there is help in general and on each command. -/
def helpOn (topics : List String) : Stop :=
  match topics with
  | [] => .help
  | [topic] => if topic = helpWord ∨ (CommandName.parse? topic).isSome then .help else .misuse
  | _ => .misuse

/-- Reads words up to the end or to the one that asks for help on what follows it. -/
def readWords (reading : Reading) : List String → Except Stop Reading
  | [] => .ok reading
  | word :: rest =>
    if reading.asksHelp word then .error (helpOn rest)
    else
      match reading.step word with
      | .ok reading => readWords reading rest
      | .error stop => .error stop

/-- What all words say. An option at the end must not lack its value. -/
def ofWords (words : List String) : Except Stop Reading := do
  let reading ← start.readWords words
  if reading.pending.isSome then throw .misuse
  return reading

end Reading

end SopDocs.CommandLine
