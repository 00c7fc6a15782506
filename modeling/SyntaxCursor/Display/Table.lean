import SyntaxCursor.Display.Markup

/-!
# Tables

A table has a heavy frame around its header and a light one around its rows. A column is as
wide as its widest cell, as long as the table fits the console; the widest columns give way if
it does not. Cells are set to the left with one space on each side, and what does not fit a
line of a cell goes on in the next one. A title is centred over the table, with the odd space
to its right.
-/
namespace SyntaxCursor.Display

structure Table where
  title : Option (List Char) := none
  header : List (List Char)
  rows : List (List (List Char))

/-- The characters of a frame line: its left end, the stroke, a crossing, and its right end. -/
structure Rule where
  left : Char
  stroke : Char
  crossing : Char
  right : Char

/-- Set strings between the ends and crossings of a line. -/
def Rule.join (r : Rule) (parts : List (List Char)) : List Char :=
  r.left :: [r.crossing].intercalate parts ++ [r.right]

/-- A frame line for columns of these widths. -/
def Rule.line (r : Rule) (widths : List Nat) : List Char :=
  r.join (widths.map fun w => List.replicate w r.stroke)

def topRule : Rule := ⟨'┏', '━', '┳', '┓'⟩

def headerRule : Rule := ⟨'┃', ' ', '┃', '┃'⟩

def middleRule : Rule := ⟨'┡', '━', '╇', '┩'⟩

def rowRule : Rule := ⟨'│', ' ', '│', '│'⟩

def bottomRule : Rule := ⟨'└', '─', '┴', '┘'⟩

/-- The columns of a cell that are left free, one on each side. -/
def cellMargin : Nat := 2

def rowLines (rule : Rule) (widths : List Nat) (cells : List (List Char)) : List (List Char) :=
  let cells := (widths.zip cells).map fun (w, cell) =>
    (w - cellMargin, wrapped .ellipsis (w - cellMargin) cell)
  let height := (cells.map fun (_, lines) => lines.length).foldl max 1
  (List.range height).map fun i =>
    rule.join <| cells.map fun (w, lines) => ' ' :: Text.padRight w (lines[i]?.getD []) ++ [' ']

/-- A line set in the middle of `size` columns. -/
def centred (size : Nat) (line : List Char) : List Char :=
  let free := size - Text.width line
  List.replicate (free / 2) ' ' ++ line ++ List.replicate (free - free / 2) ' '

/-- The whole number next to `n / d`, and the even one of two that are equally near. -/
def roundedShare (n d : Nat) : Nat :=
  let q := n / d
  if d < 2 * (n % d) || (2 * (n % d) == d && q % 2 == 1) then q + 1 else q

/-- Take `excess` away from the widths that equal `widest`, in like shares from the left, but no
more than `most` from each. `count` widths are of that kind. -/
def lessen (widest most excess count : Nat) : List Nat → List Nat
  | [] => []
  | w :: ws =>
    if w = widest then
      let share := min most (roundedShare excess count)
      (w - share) :: lessen widest most (excess - share) (count - 1) ws
    else w :: lessen widest most excess count ws

def total (widths : List Nat) : Nat := widths.foldr (· + ·) 0

/-- Make the widest columns less wide, down to the next ones, until all fit into `size`. At most
`fuel` such steps are made. -/
def collapsed (size : Nat) : Nat → List Nat → List Nat
  | 0, widths => widths
  | fuel + 1, widths =>
    if total widths ≤ size then widths
    else
      let widest := widths.foldl max 0
      let next := (widths.filter (· != widest)).foldl max 0
      let excess := total widths - size
      collapsed size fuel
        (lessen widest (min excess (widest - next)) excess (widths.count widest) widths)

namespace Table

/-- The width of column `i` in rows of rendered cells, of which no column has more than
`size`. -/
def columnWidth (size : Nat) (rows : List (List (List Char))) (i : Nat) : Nat :=
  min size ((rows.map fun row => measure (row[i]?.getD [])).foldl max 0 + cellMargin)

def columnWidths (columns : Nat) (rows : List (List (List Char))) : List Nat :=
  let size := consoleWidth - (columns + 1)
  let widths := (List.range columns).map (columnWidth size rows)
  collapsed size (total widths) widths

def lines (t : Table) : Except MarkupError (List (List Char)) := do
  let header ← t.header.mapM render
  let rows ← t.rows.mapM fun row => row.mapM render
  let widths := columnWidths t.header.length (header :: rows)
  let title := t.title.toList.map (centred (topRule.line widths).length)
  return title ++ [topRule.line widths] ++ rowLines headerRule widths header ++
    [middleRule.line widths] ++ rows.flatMap (rowLines rowRule widths) ++
    [bottomRule.line widths]

end Table

end SyntaxCursor.Display
