import NameAssignment.Report
import NameAssignment.Terminal.Style
import NameAssignment.Terminal.Width

/-!
Tables drawn with box characters and round corners.

A column is as wide as its widest line, with a blank on either side; a cell with several lines
makes its row taller, and a style that goes on over its lines is kept inside the cell. Only the
header is set off by a rule. A table without rows is empty text.
-/

namespace NameAssignment.Terminal

/-- How wide a cell's widest line is. -/
def cellWidth (cell : String) : Nat :=
  (styledLines cell).foldl (fun widest line => max widest (width line)) 0

/-- Blanks after a line up to a width. -/
def padTo (columns : Nat) (line : String) : String :=
  line ++ String.ofList (List.replicate (columns - width line) ' ')

/-- The width of every column. -/
def columnWidths (rows : List (List String)) : List Nat :=
  rows.foldl (fun widths row => List.zipWith max (row.map cellWidth) widths)
    ((rows.headD []).map fun _ => 0)

/-- A rule across the table. -/
def rule (left middle right : String) (widths : List Nat) : String :=
  left ++ String.intercalate middle
    (widths.map fun columns => String.ofList (List.replicate (columns + 2) '─')) ++ right

/-- The lines that a row takes, as many as its tallest cell has. -/
def rowLines (widths : List Nat) (row : List String) : List String :=
  let cells := row.map styledLines
  let height := (cells.map List.length).foldl max 0
  (List.range height).map fun position =>
    "│" ++ String.intercalate "│" (List.zipWith (fun columns lines =>
      " " ++ padTo columns ((lines[position]?).getD "") ++ " ") widths cells) ++ "│"

/-- A table with a header. -/
def grid (header : List String) (rows : List (List String)) : String :=
  if rows.isEmpty then ""
  else
    let widths := columnWidths (header :: rows)
    String.intercalate "\n" ([rule "╭" "┬" "╮" widths] ++ rowLines widths header
      ++ [rule "├" "┼" "┤" widths] ++ rows.flatMap (rowLines widths)
      ++ [rule "╰" "┴" "╯" widths])

end NameAssignment.Terminal
