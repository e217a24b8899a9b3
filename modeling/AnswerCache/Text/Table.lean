import AnswerCache.Text.Scan
import AnswerCache.Text.Width

namespace AnswerCache.Text

structure Table where
  header : List String
  rows : List (List String)

namespace Table

def cellLines (cell : String) : List (List Char) :=
  pieces '\n' cell.toList

def cellWidth (cell : String) : Nat :=
  ((cellLines cell).map width).foldl max 0

def widths (t : Table) : List Nat :=
  t.header.zipIdx.map fun (cell, i) =>
    (t.rows.map fun row => (row[i]?.map cellWidth).getD 0).foldl max (cellWidth cell)

def padCell (w : Nat) (line : List Char) : List Char :=
  ' ' :: line ++ List.replicate (w - width line) ' ' ++ [' ']

def lineOf (ws : List Nat) (cells : List (List (List Char))) (i : Nat) : List Char :=
  '|' :: (ws.zipIdx.flatMap fun (w, column) =>
    padCell w (((cells[column]?.getD [])[i]?).getD []) ++ ['|'])

def rowLines (ws : List Nat) (row : List String) : List (List Char) :=
  let cells := row.map cellLines
  let height := (cells.map List.length).foldl max 1
  (List.range height).map (lineOf ws cells)

def dashes (ws : List Nat) : List Char :=
  List.intercalate ['+'] (ws.map fun w => List.replicate (w + 2) '-')

def border (ws : List Nat) : List Char :=
  '+' :: dashes ws ++ ['+']

def divider (ws : List Nat) : List Char :=
  '|' :: dashes ws ++ ['|']

def underline (ws : List Nat) : List Char :=
  '+' :: List.replicate ((dashes ws).length) '=' ++ ['+']

def lines (t : Table) : List (List Char) :=
  let ws := t.widths
  let body := List.intercalate [divider ws] (t.rows.map (rowLines ws))
  border ws :: rowLines ws t.header ++ underline ws :: body ++ [border ws]

end Table

end AnswerCache.Text
