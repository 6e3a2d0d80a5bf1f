import CatalogBrowser.Text.Lines
import CatalogBrowser.Text.Width

/-!
# Grids of text

A grid without borders: each cell is filled up to the display width of its column and has a blank on
both sides. Cells with several lines make several lines. The last column is not filled up on its
right.
-/

namespace CatalogBrowser.Report

/-- At which side of its column a cell's text stands. -/
inductive Align where
  | left
  | right
deriving DecidableEq, Repr

/-- A cell of a grid. -/
structure Cell where
  text : String
  align : Align := .left
deriving DecidableEq, Repr

namespace Cell

/-- The lines of the cell's text. -/
def lines (cell : Cell) : List String :=
  Text.lines cell.text

def width (cell : Cell) : Nat :=
  (cell.lines.map Text.displayWidth).foldl max 0

def blanks (n : Nat) : String :=
  String.ofList (List.replicate n ' ')

/-- Line `i` of the cell in a column of a width. -/
def render (cell : Cell) (i columnWidth : Nat) (isLast : Bool) : String :=
  let text := (cell.lines[i]?).getD ""
  let fill := blanks (columnWidth - Text.displayWidth text)
  let filled := match cell.align with
    | .left => if isLast then text else text ++ fill
    | .right => fill ++ text
  " " ++ filled ++ " "

end Cell

abbrev Grid := List (List Cell)

namespace Grid

def columns (grid : Grid) : Nat :=
  (grid.map List.length).foldl max 0

/-- The cell of a row in a column; it is empty if the row is shorter. -/
def cell (row : List Cell) (column : Nat) : Cell :=
  (row[column]?).getD { text := "" }

def columnWidth (grid : Grid) (column : Nat) : Nat :=
  (grid.map fun row => (cell row column).width).foldl max 0

/-- The number of lines of a row; there is always one. -/
def rowHeight (row : List Cell) : Nat :=
  (row.map (·.lines.length)).foldl max 1

def renderLine (widths : List Nat) (row : List Cell) (i : Nat) : String :=
  let cells := widths.zipIdx.map fun (width, column) =>
    (cell row column).render i width (column + 1 == widths.length)
  "".intercalate cells ++ "\n"

/-- The text of the grid. -/
def render (grid : Grid) : String :=
  let widths := (List.range grid.columns).map grid.columnWidth
  let rows := grid.map fun row =>
    "".intercalate ((List.range (rowHeight row)).map (renderLine widths row))
  "".intercalate rows

end Grid

end CatalogBrowser.Report
