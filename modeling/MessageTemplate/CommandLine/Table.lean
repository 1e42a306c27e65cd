import MessageTemplate.Text.DisplayWidth

/-!
# Tables

Draws a table inside a border: a heading, a double rule and the rows. Cells are flush left
with a blank on either side, and one more blank separates columns. A cell may have several
lines; its row is as high as the highest of its cells.
-/

namespace MessageTemplate.CommandLine

/-- A heading and rows of as many cells. -/
structure Table where
  heading : List String
  rows : List (List String)
  deriving DecidableEq, Repr

namespace Table

/-- The lines of a cell: the parts of its text between line feeds, after those of the current
line. -/
def cellLines (line : List Char) : List Char → List String
  | [] => [String.ofList line.reverse]
  | '\n' :: rest => String.ofList line.reverse :: cellLines [] rest
  | character :: rest => cellLines (character :: line) rest

/-- The lines of each cell of a row. -/
def rowLines (cells : List String) : List (List String) :=
  cells.map fun text => cellLines [] text.toList

/-- The width of a cell: that of its widest line. -/
def cellWidth (text : String) : Nat :=
  (cellLines [] text.toList).foldl (fun width line => max width (displayWidth line)) 0

/-- The width of each column: that of its widest cell. -/
def columnWidths (table : Table) : List Nat :=
  table.rows.foldl (fun widths row => List.zipWith max widths (row.map cellWidth))
    (table.heading.map cellWidth)

/-- Blanks. -/
def blanks (count : Nat) : String := String.ofList (List.replicate count ' ')

/-- A line of a cell, filled up to the width of its column. -/
def cell (width : Nat) (line : String) : String :=
  " " ++ line ++ blanks (width - displayWidth line) ++ " "

/-- A line of a row between the borders. -/
def line (widths : List Nat) (parts : List String) : String :=
  "│" ++ String.intercalate " " (List.zipWith cell widths parts) ++ "│"

/-- The lines of a row; a cell with fewer lines than its row is filled up with empty ones. -/
def row (widths : List Nat) (cells : List String) : List String :=
  let columns := rowLines cells
  let height := columns.foldl (fun height column => max height column.length) 0
  (List.range height).map fun index =>
    line widths (columns.map fun column => column.getD index "")

/-- A rule across the table. -/
def rule (widths : List Nat) (left line right : String) : String :=
  let length := (widths.map (· + 2)).foldr (· + ·) 0 + (widths.length - 1)
  left ++ String.join (List.replicate length line) ++ right

/-- The lines of a table. -/
def lines (table : Table) : List String :=
  let widths := table.columnWidths
  [rule widths "┌" "─" "┐"] ++ row widths table.heading ++ [rule widths "╞" "═" "╡"] ++
    table.rows.flatMap (row widths) ++ [rule widths "└" "─" "┘"]

/-- The text of a table, without a line end after the last line. -/
def render (table : Table) : String := String.intercalate "\n" table.lines

end Table

end MessageTemplate.CommandLine
