/-
  File:      InputMask/Table.lean
  Subject:   Tables in box-drawing characters.

  A column is as wide as its widest line, with a space on both sides; a
  cell with several lines makes its row that high. A double rule stands
  below the header and a dashed one between rows.
-/
import InputMask.Text.Width
namespace InputMask

/-! ## 1. Cells -/

/-- The lines of a cell; a line feed always starts another one. -/
def cellLines : Text → List Text
  | [] => [[]]
  | c :: t =>
    match c == '\n', cellLines t with
    | true, ls => [] :: ls
    | false, [] => [[c]]
    | false, l :: ls => (c :: l) :: ls

/-- The width of a cell. -/
def cellWidth (t : Text) : Nat := ((cellLines t).map Text.width).foldl max 0

/-- A header and rows of cells. -/
structure Table where
  /-- The names of the columns. -/
  header : List Text
  /-- The rows, each with a cell for each column. -/
  rows : List (List Text)
  deriving DecidableEq, Repr

namespace Table

/-! ## 2. Lines -/

/-- The width of each column. -/
def columns (t : Table) : List Nat :=
  t.rows.foldl (fun ws row => ws.zipWith max (row.map cellWidth)) (t.header.map cellWidth)

/-- A rule across all columns: what it starts with, is made of, crosses
    columns with and ends in. -/
def rule (widths : List Nat) (left bar cross right : Char) : Text :=
  left :: [cross].intercalate (widths.map fun w => List.replicate (w + 2) bar) ++ [right]

/-- One line of a row: the `i`-th line of each cell. -/
def rowLine (widths : List Nat) (cells : List (List Text)) (i : Nat) : Text :=
  let parts := widths.zipWith (fun w ls => ' ' :: Text.padTo w (ls.getD i []) ++ [' ']) cells
  '│' :: ['┆'].intercalate parts ++ ['│']

/-- The lines of a row. -/
def rowLines (widths : List Nat) (row : List Text) : List Text :=
  let cells := row.map cellLines
  (List.range ((cells.map List.length).foldl max 0)).map (rowLine widths cells)

/-- The lines of rows, with a rule between two. -/
def bodyLines (widths : List Nat) : List (List Text) → List Text
  | [] => []
  | [row] => rowLines widths row
  | row :: rows => rowLines widths row ++ rule widths '├' '╌' '┼' '┤' :: bodyLines widths rows

/-- The table as text, without a line feed at its end. -/
def render (t : Table) : Text :=
  let ws := t.columns
  ['\n'].intercalate <|
    rule ws '┌' '─' '┬' '┐' :: rowLines ws t.header ++ rule ws '╞' '═' '╪' '╡' ::
      bodyLines ws t.rows ++ [rule ws '└' '─' '┴' '┘']

end Table

end InputMask
