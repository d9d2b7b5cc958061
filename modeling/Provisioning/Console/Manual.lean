import Provisioning.Console.Grammar
import Provisioning.Console.Table

/-!
# Manuals

The manual of a command says what the command does and lists the commands below
it, its operand and its options.  A brief manual has a line for each option, with
its notes in brackets; a full one has paragraphs, and explains the choices of an
option one by one.
-/

namespace Provisioning.Console

namespace OptionRule

/-- The option as it is written out, with a place for its value. -/
def spelling (option : OptionRule) : String :=
  match option.effect with
  | .value _ => "--" ++ option.name ++ " <" ++ option.name.toUpper ++ ">"
  | _ => "--" ++ option.name

/-- The option with its letter in front, or the room for one. -/
def label (option : OptionRule) : String :=
  match option.short with
  | some letter => "-" ++ letter.toString ++ ", " ++ option.spelling
  | none => "    " ++ option.spelling

/-- What options of one rank are sorted by: the letter, a small one first, or the
name. -/
def sortName (option : OptionRule) : String :=
  match option.short with
  | some letter => letter.toLower.toString ++ (if letter.isUpper then "1" else "0")
  | none => option.name

/-- Whether an option is listed before another one. -/
def precedes (a b : OptionRule) : Bool :=
  a.rank < b.rank || (a.rank == b.rank && a.sortName ≤ b.sortName)

/-- What stands in for the option when it is not given.  `environment` gives the
values of the variables. -/
def fallbackNotes (environment : String → String) (option : OptionRule) : List String :=
  (option.standIn.map fun name => "[env: " ++ name ++ "=" ++ environment name ++ "]").toList ++
    (option.usual.map fun value => "[default: " ++ value ++ "]").toList

/-- The choices as a note. -/
def choiceNotes (option : OptionRule) : List String :=
  if option.choices.isEmpty then []
  else ["[possible values: " ++ ", ".intercalate (option.choices.map (·.1)) ++ "]"]

end OptionRule

namespace Manual

/-- As many blanks. -/
def blanks (count : Nat) : String :=
  Table.repeated ' ' count

/-- A text whose further lines begin at a column. -/
def hanging (column : Nat) (text : String) : String :=
  ("\n" ++ blanks column).intercalate (text.splitOn "\n")

/-- The column at which paragraphs begin. -/
def paragraphColumn : Nat := 10

/-- A line of a paragraph. -/
def paragraphLine (text : String) : String :=
  blanks paragraphColumn ++ hanging paragraphColumn text

/-- The length of the longest text. -/
def longest (texts : List String) : Nat :=
  (texts.map String.length).foldl max 0

/-- A line for each entry, a label and what it means, the meanings aligned. -/
def aligned (entries : List (String × String)) : List String :=
  let width := longest (entries.map (·.1))
  entries.map fun (label, meaning) =>
    "  " ++ label ++ blanks (width - label.length) ++ "  " ++ hanging (width + 4) meaning

/-- The paragraphs of entries, with a blank line between any two. -/
def spaced : List (List String) → List String
  | [] => []
  | [lines] => lines
  | lines :: rest => lines ++ [""] ++ spaced rest

/-- The lines that explain the choices of an option. -/
def choiceLines (choices : List (String × String)) : List String :=
  if choices.isEmpty then []
  else
    let width := longest (choices.map (·.1))
    ["", paragraphLine "Possible values:"] ++
      choices.map fun (name, meaning) =>
        paragraphLine ("- " ++ name ++ ": " ++ blanks (width - name.length) ++ meaning)

/-- The paragraphs about an option. -/
def optionParagraphs (environment : String → String) (option : OptionRule) : List String :=
  let notes := option.fallbackNotes environment
  ["  " ++ option.label, paragraphLine (option.summary .full)] ++ choiceLines option.choices ++
    (if notes.isEmpty then [] else blanks paragraphColumn :: notes.map paragraphLine)

/-- The line about an option, as an entry. -/
def optionEntry (environment : String → String) (option : OptionRule) : String × String :=
  (option.label, " ".intercalate
    (option.summary .brief :: option.fallbackNotes environment ++ option.choiceNotes))

/-- A section of a manual under its heading, if there is something in it. -/
def headed (heading : String) (lines : List String) : List String :=
  if lines.isEmpty then [] else ["", heading ++ ":"] ++ lines

/-- How a command is written. -/
def usageLine (path : List String) (rule : CommandRule) : String :=
  let given := (rule.options.filter (·.required)).map OptionRule.spelling
  " ".intercalate <|
    "Usage:" :: path ++ (if rule.options.isEmpty then [] else ["[OPTIONS]"]) ++ given ++
      (rule.operand.map (·.place)).toList ++ (if rule.commands.isEmpty then [] else ["<COMMAND>"])

/-- The manual of a command at the end of a path.  One without options that have
choices is always brief. -/
def render (environment : String → String) (path : List String) (rule : CommandRule)
    (wanted : Extent) : String :=
  let options := rule.options.mergeSort OptionRule.precedes
  let operands := rule.operand.toList
  let extent := if options.any (!·.choices.isEmpty) then wanted else .brief
  let operandLines := match extent with
    | .brief => aligned (operands.map fun operand => (operand.place, operand.summary))
    | .full => spaced (operands.map fun operand => ["  " ++ operand.place, paragraphLine operand.summary])
  let optionLines := match extent with
    | .brief => aligned (options.map (optionEntry environment))
    | .full => spaced (options.map (optionParagraphs environment))
  "\n".intercalate
    ([rule.summary, "", usageLine path rule] ++
      headed "Commands" (aligned (rule.commands.map fun below => (below.name, below.summary))) ++
      headed "Arguments" operandLines ++ headed "Options" optionLines) ++ "\n"

end Manual

/-- The command at the end of a path of names below a command. -/
def CommandRule.at? (rule : CommandRule) : List String → Option CommandRule
  | [] => some rule
  | name :: rest => (rule.command? name).bind (·.at? rest)

end Provisioning.Console
