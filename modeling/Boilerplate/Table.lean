/-! Tables in boxes: a header over a double rule, one row a line, and columns as wide as their
widest cell with a blank on either side. -/
namespace Boilerplate

/-- A table whose first column may be aligned to the right. -/
structure Table where
  header : List String
  rows : List (List String)
  firstIsRight : Bool
deriving Repr

namespace Table

/-- The lines of a cell. -/
def lines (cell : String) : List (List Char) := cell.toList.splitOn '\n'

def cellWidth (cell : String) : Nat := ((lines cell).map List.length).foldl max 0

/-- The widths of the columns. -/
def widths (table : Table) : List Nat :=
  table.rows.foldl (fun widths row => List.zipWith max widths (row.map cellWidth))
    (table.header.map cellWidth)

def fill (n : Nat) (c : Char) : List Char := List.replicate n c

/-- A rule across the table, of one character between columns and another along them. -/
def rule (left along between right : Char) (widths : List Nat) : String :=
  String.ofList (left :: (List.intercalate [between]
    (widths.map fun width => fill (width + 2) along) ++ [right])) ++ "\n"

def padded (isRight : Bool) (width : Nat) (text : List Char) : List Char :=
  let space := fill (width - text.length) ' '
  ' ' :: ((if isRight then space ++ text else text ++ space) ++ [' '])

/-- The parts of one line of a row, the first aligned to the right if so wanted. -/
def lineParts (isRight : Bool) : List Nat → List (List Char) → List (List Char)
  | width :: widths, text :: texts => padded isRight width text :: lineParts false widths texts
  | _, _ => []

def line (table : Table) (texts : List (List Char)) : String :=
  String.ofList ('│' :: (List.intercalate ['┆']
    (lineParts table.firstIsRight table.widths texts) ++ ['│'])) ++ "\n"

/-- A row, which takes as many lines as its tallest cell. -/
def row (table : Table) (cells : List String) : String :=
  let columns := cells.map lines
  let height := (columns.map List.length).foldl max 0
  String.join ((List.range height).map fun n =>
    table.line (columns.map fun column => (column[n]?).getD []))

def text (table : Table) : String :=
  rule '╭' '─' '┬' '╮' table.widths ++ table.row table.header ++
    rule '╞' '═' '╪' '╡' table.widths ++ String.join (table.rows.map table.row) ++
    rule '╰' '─' '┴' '╯' table.widths

end Table
end Boilerplate
