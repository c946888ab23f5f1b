import ValueBuilder.Unicode.Columns

/-!
# Tables

A table has a header row and rows of cells.  A column is as wide as its widest cell and a blank on
either side.  Rules above the header and below the last row are broken between the columns; the one
below the header is not.
-/

namespace ValueBuilder

/-- Where the text stands in a cell that is wider. -/
inductive Alignment
  | left
  | right
  /-- In the middle, and rather to the right than to the left. -/
  | center
  deriving Repr, DecidableEq

/-- A column of a table. -/
structure Column where
  header : String
  alignment : Alignment := .left
  deriving Repr, DecidableEq

namespace Table

/-- Blanks. -/
def blanks (n : Nat) : String :=
  "".pushn ' ' n

/-- A text filled up to a number of columns. -/
def fill (alignment : Alignment) (width : Nat) (s : String) : String :=
  let missing := width - Unicode.columns s
  match alignment with
  | .left => s ++ blanks missing
  | .right => blanks missing ++ s
  | .center => blanks (missing - missing / 2) ++ s ++ blanks (missing / 2)

/-- A cell with a blank on either side. -/
def cell (alignment : Alignment) (width : Nat) (s : String) : String :=
  " " ++ fill alignment width s ++ " "

/-- A horizontal rule. -/
def rule (length : Nat) : String :=
  "".pushn '─' length

/-- The width of the widest of some texts. -/
def widest (texts : List String) : Nat :=
  (texts.map Unicode.columns).foldr max 0

/-- The columns of a table with their widths. -/
def measured (columns : List Column) (rows : List (List String)) : List (Column × Nat) :=
  columns.zipIdx.map fun (column, i) =>
    (column, widest (column.header :: rows.map fun row => row.getD i ""))

/-- A row of cells. -/
def row (columns : List (Column × Nat)) (cells : List String) : String :=
  " ".intercalate
    (List.zipWith (fun (column, width) s => cell column.alignment width s) columns cells)

/-- The header row, whose texts stand on the left. -/
def headerRow (columns : List (Column × Nat)) : String :=
  " ".intercalate (columns.map fun (column, width) => cell .left width column.header)

/-- The rule that is broken between the columns. -/
def brokenRule (columns : List (Column × Nat)) : String :=
  " ".intercalate (columns.map fun (_, width) => rule (width + 2))

/-- The rule over all columns and the gaps between them. -/
def fullRule (columns : List (Column × Nat)) : String :=
  rule (columns.foldr (fun column total => column.2 + 3 + total) 0 - 1)

/-- The lines of a table. -/
def lines (columns : List Column) (rows : List (List String)) : List String :=
  let columns := measured columns rows
  [brokenRule columns, headerRow columns, fullRule columns] ++ rows.map (row columns) ++
    [brokenRule columns]

end Table

end ValueBuilder
