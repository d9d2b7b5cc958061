/-!
# Grammar of a command line

A command has options, perhaps an operand and perhaps commands below it; one with
commands below it also has the command `help`, which explains them.  A
command line is read from left to right into levels, one for the program and
one for each command below it: the options that were given there and the
operand.

`--name value`, `--name=value`, `-n value`, `-nvalue` and `-n=value` give an
option its value, and short options without one can share a hyphen.  A value
that follows on its own must not look like an option.  An option can be given
once at each level.  After `--` all that follows are operands.

A value of its own is checked when the next word at its level is read; when a
command follows, that is after the command has been read.
-/

namespace Provisioning.Console

/-- How much a manual says of an option: a line or paragraphs. -/
inductive Extent where
  | brief
  | full
deriving DecidableEq, Repr

/-- What an option does: it takes a value, it is a mark, or it ends the reading. -/
inductive OptionEffect where
  | value (accepts : String → Bool)
  | mark
  | version
  | help

/-- An option of a command.  `rank` is its place among those of a command, and
`required` says whether it has to be given.  `standIn` names the variable of the
environment that may stand in for it, `usual` is its value if it is not given, and
`choices` are the values that it takes, with what they mean, if there are few. -/
structure OptionRule where
  name : String
  short : Option Char := none
  effect : OptionEffect
  summary : Extent → String
  rank : Nat
  required : Bool := false
  standIn : Option String := none
  usual : Option String := none
  choices : List (String × String) := []

/-- The operand of a command; `place` stands for it in the manual. -/
structure OperandRule where
  place : String
  summary : String
  accepts : String → Bool

/-- A command with its options, operand and commands. -/
inductive CommandRule where
  | mk (name summary : String) (options : List OptionRule) (operand : Option OperandRule)
    (commands : List CommandRule)

namespace CommandRule

/-- The name of the command. -/
def name : CommandRule → String
  | mk name _ _ _ _ => name

/-- What the command does. -/
def summary : CommandRule → String
  | mk _ summary _ _ _ => summary

/-- The options of the command. -/
def options : CommandRule → List OptionRule
  | mk _ _ options _ _ => options

/-- The operand that the command takes, if any. -/
def operand : CommandRule → Option OperandRule
  | mk _ _ _ operand _ => operand

/-- The command that explains its siblings. -/
def explainer : CommandRule :=
  mk "help" "Print this message or the help of the given subcommand(s)" []
    (some ⟨"[COMMAND]...", "Print help for the subcommand(s)", fun _ => true⟩) []

/-- The commands below the command. -/
def commands : CommandRule → List CommandRule
  | mk _ _ _ _ [] => []
  | mk _ _ _ _ commands => commands ++ [explainer]

/-- The command of this name below the command. -/
def command? (rule : CommandRule) (name : String) : Option CommandRule :=
  rule.commands.find? (·.name == name)

/-- The option of this name. -/
def long? (rule : CommandRule) (name : String) : Option OptionRule :=
  rule.options.find? (·.name == name)

/-- The option of this letter. -/
def short? (rule : CommandRule) (letter : Char) : Option OptionRule :=
  rule.options.find? (·.short == some letter)

end CommandRule

/-- Why no command is carried out: the line is wrong, or it asks for the version or
the manual of the command at the end of a path. -/
inductive Ending where
  | usage
  | version (path : List String)
  | help (path : List String) (extent : Extent)
deriving DecidableEq, Repr

/-- What was given at one level.  Options without a value have an empty one. -/
structure Level where
  name : String
  options : List (String × String) := []
  operand : Option String := none
deriving DecidableEq, Repr

/-- A level that is being read, with the option whose value of its own has not
been checked. -/
structure OpenLevel where
  level : Level
  pending : Option (OptionRule × String) := none

namespace OpenLevel

/-- Adds an option that was not given before. -/
def addOption (opened : OpenLevel) (name value : String) : Option OpenLevel :=
  if (opened.level.options.lookup name).isSome then none
  else some { opened with level := { opened.level with
    options := opened.level.options ++ [(name, value)] } }

/-- Adds an option with a value, if it takes the value. -/
def addValue (opened : OpenLevel) (option : OptionRule) (value : String) : Option OpenLevel :=
  match option.effect with
  | .value accepts => if accepts value then opened.addOption option.name value else none
  | _ => none

/-- Checks the pending value. -/
def settle (opened : OpenLevel) : Option OpenLevel :=
  match opened.pending with
  | none => some opened
  | some (option, value) => { opened with pending := none }.addValue option value

/-- Adds an operand. -/
def addOperand (opened : OpenLevel) (rule : CommandRule) (value : String) : Option OpenLevel :=
  match rule.operand, opened.level.operand with
  | some operand, none =>
    if operand.accepts value then some { opened with level := { opened.level with operand := some value } }
    else none
  | _, _ => none

/-- Adds the operands that follow `--`. -/
def addOperands (opened : OpenLevel) (rule : CommandRule) : List String → Option OpenLevel
  | [] => some opened
  | value :: rest => (opened.addOperand rule value).bind (·.addOperands rule rest)

end OpenLevel

/-- Whether a word looks like an option: it starts with a hyphen and is not a
hyphen alone. -/
def looksLikeOption (word : String) : Bool :=
  match word.toList with
  | '-' :: _ :: _ => true
  | _ => false

/-- What came of reading a word of options: the level, and the option that
still needs a value of its own. -/
abbrev OptionsRead := Except Ending (OpenLevel × Option OptionRule)

/-- A step that ends in the usage error when it has no result. -/
def orUsage {α : Type} : Option α → Except Ending α
  | some a => .ok a
  | none => .error .usage

/-- Reads the letters of short options. -/
def readLetters (rule : CommandRule) (path : List String) (opened : OpenLevel) :
    List Char → OptionsRead
  | [] => .ok (opened, none)
  | letter :: rest =>
    match rule.short? letter with
    | none => .error .usage
    | some option =>
      match option.effect with
      | .version => .error (.version path)
      | .help => .error (.help path .brief)
      | .mark =>
        match opened.addOption option.name "" with
        | some opened => readLetters rule path opened rest
        | none => .error .usage
      | .value _ =>
        match rest with
        | [] => .ok (opened, some option)
        | '=' :: value => return (← orUsage (opened.addValue option (String.ofList value)), none)
        | value => return (← orUsage (opened.addValue option (String.ofList value)), none)

/-- Reads a long option, given the characters after its hyphens. -/
def readLong (rule : CommandRule) (path : List String) (opened : OpenLevel) (word : List Char) :
    OptionsRead :=
  let value? := (word.dropWhile (· != '=')).tail?.map String.ofList
  match rule.long? (String.ofList (word.takeWhile (· != '='))), value? with
  | none, _ => .error .usage
  | some option, some value => return (← orUsage (opened.addValue option value), none)
  | some option, none =>
    match option.effect with
    | .version => .error (.version path)
    | .help => .error (.help path .full)
    | .mark => return (← orUsage (opened.addOption option.name ""), none)
    | .value _ => .ok (opened, some option)

/-- Reads a word that looks like an option. -/
def readOptions (rule : CommandRule) (path : List String) (opened : OpenLevel) (word : String) :
    OptionsRead := do
  let settled ← orUsage opened.settle
  match word.toList with
  | '-' :: '-' :: rest => readLong rule path settled rest
  | '-' :: rest => readLetters rule path settled rest
  | _ => .error .usage

/-- How the reading ends when the words after `help` name a command, one level after
the other. -/
def readHelp (rule : CommandRule) (path : List String) : List String → Ending
  | [] => .help path .full
  | word :: rest =>
    match rule.command? word with
    | some below => readHelp below (path ++ [below.name]) rest
    | none => .usage

/-- Reads the words at and below a level.  `path` holds the names of the commands
down to this level. -/
def readLevels (rule : CommandRule) (path : List String) (opened : OpenLevel) :
    List String → Except Ending (List Level)
  | [] => return [(← orUsage opened.settle).level]
  | word :: rest =>
    if word == "--" then do
      let settled ← orUsage opened.settle
      return [(← orUsage (settled.addOperands rule rest)).level]
    else if looksLikeOption word then do
      match ← readOptions rule path opened word with
      | (opened, none) => readLevels rule path opened rest
      | (opened, some option) =>
        match rest with
        | [] => .error .usage
        | value :: rest =>
          if looksLikeOption value then .error .usage
          else readLevels rule path { opened with pending := some (option, value) } rest
    else
      match rule.command? word with
      | some below =>
        if below.name == CommandRule.explainer.name then .error (readHelp rule path rest)
        else do
          let levels ←
            readLevels below (path ++ [below.name]) { level := { name := below.name } } rest
          return (← orUsage opened.settle).level :: levels
      | none => do
        let settled ← orUsage opened.settle
        readLevels rule path (← orUsage (settled.addOperand rule word)) rest

/-- The levels of a command line. -/
def CommandRule.read (rule : CommandRule) (words : List String) : Except Ending (List Level) :=
  readLevels rule [rule.name] { level := { name := rule.name } } words

end Provisioning.Console
