/-! # Text laid out in columns

A text is read as lines of cells: a tab ends a cell, a line feed ends a line, and a form feed ends
a line and everything that is lined up.  A column is as wide as the widest of its cells in
neighbouring lines, and two blanks follow it.  The last cell of a line belongs to no column.

* `read` cuts a text into blocks of lines of cells.
* `layout` puts the blanks in, column after column. -/

namespace GuestHost.Table

abbrev Cell := List Char

/-- The cells of a line; the last one is not followed by a tab. -/
abbrev Line := List Cell

/-- Puts a character at the front of the first cell of a block. -/
def pushFront (c : Char) : List Line → List Line
  | (cell :: cells) :: lines => ((c :: cell) :: cells) :: lines
  | [] :: lines => [[c]] :: lines
  | [] => [[[c]]]

/-- Starts a new first cell in the first line of a block. -/
def openCell : List Line → List Line
  | cells :: lines => ([] :: cells) :: lines
  | [] => [[[], []]]

/-- The blocks of a text.  There is always one, which has a line with a cell. -/
def read : List Char → List Line × List (List Line)
  | [] => ([[[]]], [])
  | c :: cs =>
    let (lines, blocks) := read cs
    if c = '\t' ∨ c = '\x0b' then (openCell lines, blocks)
    else if c = '\n' then ([[]] :: lines, blocks)
    else if c = '\x0c' then ([[[]]], lines :: blocks)
    else (pushFront c lines, blocks)

/-- The number of blanks after a column. -/
def padding : Nat := 2

def padded (width : Nat) (cell : Cell) : Cell := cell ++ List.replicate (width - cell.length) ' '

/-- The width of the first column of neighbouring lines. -/
def widthOf (lines : List Line) : Nat :=
  (lines.map fun l => (l.headD []).length).foldl max 0 + padding

/-- Lays lines out, whose first cells are in one column.  `fuel` bounds the number of columns. -/
def layout : Nat → List Line → List Cell
  | 0, lines => lines.map List.flatten
  | fuel + 1, lines =>
    (lines.splitBy fun a b => (1 < a.length) = (1 < b.length)).flatMap fun group =>
      if 1 < (group.headD []).length then
        let width := widthOf group
        List.zipWith (fun l rest => padded width (l.headD []) ++ rest) group
          (layout fuel (group.map (List.drop 1)))
      else group.map List.flatten

def block (lines : List Line) : List Char :=
  (layout ((lines.map List.length).foldl max 0) lines).flatMap (· ++ ['\n'])

/-- A text of cells in columns.  Every line ends with a line feed, the last one only if the text
ends with one. -/
def render (s : String) : String :=
  let (lines, blocks) := read s.toList
  String.ofList (((lines :: blocks).flatMap block).dropLast)

end GuestHost.Table
