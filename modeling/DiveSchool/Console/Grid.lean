import DiveSchool.Json.Writer
import DiveSchool.Text.Width
import DiveSchool.Text.Blank

/-!
# `DiveSchool.Console.Grid` — rows for people and for programs

A row is a list of named values. People get rows as a grid of fixed columns, programs as JSON.

## Contents
- **Rows.** `Row`, and the text of a value in a cell.
- **Grids.** `Grid.render`: a header, the rows, and a rule after each of them. A cell may have several
  lines.
- **Formats.** `Format`, `showList`, `showRow`.
-/

namespace DiveSchool.Console

open Text

/-! ## Rows -/

/-- Named values, in the order of the columns. -/
abbrev Row := List (String × Json)

/-- The text of a value in a cell: a text as it is, anything else as in JSON. -/
def cellText : Json → String
  | .text s => s
  | other => other.compact

/-! ## Grids -/

namespace Grid

/-- The lines of a cell. -/
def cellLines (cell : String) : List (List Char) := pieces (· == '\n') cell.toList

/-- The columns a cell takes. -/
def cellWidth (cell : String) : Nat := ((cellLines cell).map width).foldl max 0

/-- The width of each column of a table of cells. -/
def columnWidths (table : List (List String)) : List Nat :=
  table.foldl
    (fun widths cells =>
      let here := cells.map cellWidth
      (List.range (max widths.length here.length)).map fun i =>
        max (widths.getD i 0) (here.getD i 0))
    []

/-- The rule above and below each row. -/
def rule (widths : List Nat) : String :=
  "+" ++ String.join (widths.map fun w => String.ofList (List.replicate (w + 2) '-') ++ "+")

/-- One line of a row: the line of each cell with that number, between bars. -/
def rowLine (widths : List Nat) (cells : List (List (List Char))) (number : Nat) : String :=
  "|" ++ String.join ((widths.zip cells).map fun (w, lines) =>
    " " ++ String.ofList (padTo w (lines.getD number [])) ++ " |")

/-- The lines of a row. -/
def rowLines (widths : List Nat) (cells : List String) : List String :=
  let split := cells.map cellLines
  let height := (split.map List.length).foldl max 1
  (List.range height).map (rowLine widths split)

/-- The lines of a table of cells. -/
def lines (table : List (List String)) : List String :=
  let widths := columnWidths table
  rule widths :: table.flatMap fun cells => rowLines widths cells ++ [rule widths]

/-- The table of some rows, with the names of the columns on top. -/
def cells (first : Row) (rows : List Row) : List (List String) :=
  first.map Prod.fst :: rows.map fun row => row.map fun column => cellText column.2

/-- Some rows as a grid; the first one names the columns. -/
def render (rows : List Row) : List String :=
  match rows with
  | [] => []
  | first :: _ => lines (cells first rows)

end Grid

/-! ## Formats -/

/-- How rows are shown. -/
inductive Format where
  | table
  | json
  deriving DecidableEq, Repr, Inhabited

namespace Format

/-- Both formats. -/
def all : List Format := [table, json]

/-- The name of a format. -/
def name : Format → String
  | table => "table"
  | json => "json"

/-- The format with a given name. -/
def ofName? (text : String) : Option Format := all.find? (·.name == text)

end Format

/-- The lines of a list of rows. -/
def showList (rows : List Row) : Format → List String
  | .table => if rows.isEmpty then ["No results found."] else Grid.render rows
  | .json => [(Json.array (rows.map .object)).pretty]

/-- The lines of one row. -/
def showRow (row : Row) : Format → List String
  | .table => Grid.render [row]
  | .json => [(Json.object row).pretty]

end DiveSchool.Console
