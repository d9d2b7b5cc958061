import Provisioning.Text.Columns

/-!
# Tables

A header and rows of cells, drawn with box characters: a solid border, a double
rule under the header and dashed rules between rows and columns.  Every column
is as wide as its widest line; a cell may have several lines.
-/

namespace Provisioning.Console.Table

/-- The lines of a cell. -/
def cellLines (cell : String) : List String :=
  cell.splitOn "\n"

/-- The columns that a cell takes. -/
def cellWidth (cell : String) : Nat :=
  ((cellLines cell).map Text.columns).foldl max 0

/-- The wider of two widths at each place. -/
def widest : List Nat → List Nat → List Nat
  | a :: as, b :: bs => max a b :: widest as bs
  | as, [] => as
  | [], bs => bs

/-- The widths of the columns of a table. -/
def widths (rows : List (List String)) : List Nat :=
  (rows.map fun row => row.map cellWidth).foldl widest []

/-- A character written some times. -/
def repeated (c : Char) (count : Nat) : String :=
  String.ofList (List.replicate count c)

/-- A text with blanks up to a width, and one more at each side. -/
def padded (text : String) (width : Nat) : String :=
  " " ++ text ++ repeated ' ' (width - Text.columns text) ++ " "

/-- A horizontal rule: its left end, its line, its crossings and its right end. -/
def rule (left : String) (line : Char) (crossing right : String) (widths : List Nat) : String :=
  left ++ crossing.intercalate (widths.map fun width => repeated line (width + 2)) ++ right

/-- The line of this number of a row. -/
def rowLine (widths : List Nat) (row : List String) (number : Nat) : String :=
  let cells := row.zipWith (fun cell width => padded ((cellLines cell)[number]?.getD "") width) widths
  "│" ++ "┆".intercalate cells ++ "│"

/-- The lines of a row. -/
def rowLines (widths : List Nat) (row : List String) : List String :=
  let height := (row.map fun cell => (cellLines cell).length).foldl max 1
  (List.range height).map (rowLine widths row)

/-- The lines of rows with a rule between any two. -/
def bodyLines (widths : List Nat) : List (List String) → List String
  | [] => []
  | [row] => rowLines widths row
  | row :: rest => rowLines widths row ++ [rule "├" '╌' "┼" "┤" widths] ++ bodyLines widths rest

/-- The table as text. -/
def render (header : List String) (rows : List (List String)) : String :=
  let widths := widths (header :: rows)
  "\n".intercalate
    ([rule "┌" '─' "┬" "┐" widths] ++ rowLines widths header ++ [rule "╞" '═' "╪" "╡" widths] ++
      bodyLines widths rows ++ [rule "└" '─' "┴" "┘" widths])

end Provisioning.Console.Table
