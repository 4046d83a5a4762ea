import Gamebook.Text.Cells

namespace Gamebook

/-- A table with a heading for each column. -/
structure Grid where
  header : List String
  rows : List (List String)

namespace Grid

/-- The lines of some characters, after the line that is begun, last character first. -/
def linesFrom (line : List Char) : List Char → List String
  | [] => [String.ofList line.reverse]
  | c :: rest =>
    if c = '\n' then String.ofList line.reverse :: linesFrom [] rest
    else linesFrom (c :: line) rest

/-- The lines of a cell. -/
def cellLines (cell : String) : List String :=
  linesFrom [] cell.toList

/-- The widths of the columns: those of the widest lines of their cells. -/
def widths (grid : Grid) : List Nat :=
  (grid.header :: grid.rows).foldl
    (fun widths row => List.zipWith max widths
      (row.map fun cell => ((cellLines cell).map Text.cells).foldl max 0))
    (grid.header.map fun _ => 0)

/-- Text repeated. -/
def repeated (c : Char) (count : Nat) : String :=
  String.ofList (List.replicate count c)

/-- A line of a cell, with a blank on each side and filled up to the width of its column. -/
def pad (width : Nat) (line : String) : String :=
  " " ++ line ++ repeated ' ' (width - Text.cells line) ++ " "

/-- The lines of a row. -/
def rowLines (widths : List Nat) (row : List String) : List String :=
  let cells := row.map cellLines
  let height := (cells.map List.length).foldl max 0
  (List.range height).map fun i =>
    "|" ++ String.intercalate "|"
      (List.zipWith (fun width cell => pad width ((cell[i]?).getD "")) widths cells) ++ "|"

/-- A line across all columns: its ends, its stroke, and what stands between columns. -/
def rule (widths : List Nat) (edge stroke cross : Char) : String :=
  repeated edge 1 ++
    String.intercalate (repeated cross 1) (widths.map fun width => repeated stroke (width + 2)) ++
    repeated edge 1

/-- The lines of a table. -/
def lines (grid : Grid) : List String :=
  let widths := grid.widths
  let rows := grid.rows.map (rowLines widths)
  rule widths '+' '-' '+' :: rowLines widths grid.header ++ rule widths '+' '=' '=' ::
    List.intercalate [rule widths '|' '-' '+'] rows ++ [rule widths '+' '-' '+']

end Grid

end Gamebook
