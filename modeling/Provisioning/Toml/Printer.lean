import Provisioning.Decimal.Layout
import Provisioning.Toml.Quoted

/-!
# Writing TOML documents

Entries of a table come before its subtables, which have a header of their own
after a blank line.  A header is left out for a table that has only subtables.
Arrays of two items or more take one line for each.
-/

namespace Provisioning.Toml

/-- A key, in quotes where it needs them. -/
def writeKey (key : String) : String :=
  if !key.isEmpty && key.toList.all isBareKeyChar then key else quote key

mutual

/-- A value on the line of its key. -/
def writeValue : Toml → String
  | str value => quote value
  | int value => toString value
  | float value => Decimal.Layout.data.write value
  | bool true => "true"
  | bool false => "false"
  | date text => text
  | arr items =>
    match writeItems items with
    | [] => "[]"
    | [item] => "[" ++ item ++ "]"
    | items => "[\n    " ++ ",\n    ".intercalate items ++ ",\n]"
  | table [] => "\x7b\x7d"
  | table entries => "\x7b " ++ ", ".intercalate (writeInline entries) ++ " \x7d"

/-- The items of an array. -/
def writeItems : List Toml → List String
  | [] => []
  | item :: rest => writeValue item :: writeItems rest

/-- The entries of a table within a line. -/
def writeInline : List (String × Toml) → List String
  | [] => []
  | (key, value) :: rest => (writeKey key ++ " = " ++ writeValue value) :: writeInline rest

end

/-- The lines of the entries that are no tables. -/
def entryLines : List (String × Toml) → List String
  | [] => []
  | (_, table _) :: rest => entryLines rest
  | (key, value) :: rest => (writeKey key ++ " = " ++ writeValue value ++ "\n") :: entryLines rest

/-- The header of a table. -/
def header (path : List String) : String :=
  "[" ++ ".".intercalate (path.map writeKey) ++ "]\n"

mutual

/-- A table with its header and all below it; the result is a list of blocks. -/
def tableBlocks (path : List String) : Toml → List String
  | table entries =>
    let lines := entryLines entries
    let blocks := subtableBlocks path entries
    if path.isEmpty then
      if lines.isEmpty then blocks else String.join lines :: blocks
    else if lines.isEmpty && !blocks.isEmpty then blocks
    else (header path ++ String.join lines) :: blocks
  | _ => []

/-- The blocks of the subtables among the entries. -/
def subtableBlocks (path : List String) : List (String × Toml) → List String
  | [] => []
  | (key, value) :: rest => tableBlocks (path ++ [key]) value ++ subtableBlocks path rest

end

mutual

/-- Whether every whole number is one that TOML has. -/
def fits : Toml → Bool
  | int value => minInt ≤ value && value ≤ maxInt
  | arr items => allFit items
  | table entries => entriesFit entries
  | _ => true

/-- Whether every whole number of the items is one that TOML has. -/
def allFit : List Toml → Bool
  | [] => true
  | item :: rest => fits item && allFit rest

/-- Whether every whole number of the entries is one that TOML has. -/
def entriesFit : List (String × Toml) → Bool
  | [] => true
  | (_, value) :: rest => fits value && entriesFit rest

end

/-- The text of a document; none if a number is out of range. -/
def render? (document : Toml) : Option String :=
  if fits document then some ("\n".intercalate (tableBlocks [] document)) else none

end Provisioning.Toml
