import SyntaxCursor.Text.Blank
import SyntaxCursor.Text.Width

/-!
# Lines of the console

A text is shown in lines of a given number of columns. Tabs go to the next column that is a
multiple of eight, and the control characters that move the cursor are left out. Words are
never parted, unless one of them is wider than a line: it then either goes on in the next line
or is cut off, with an ellipsis in its place. White space beyond the end of a line is dropped.
-/
namespace SyntaxCursor.Display

open Text

/-- Bell, backspace, vertical tab, form feed and carriage return. -/
def isCursorControl (c : Char) : Bool :=
  [0x07, 0x08, 0x0b, 0x0c, 0x0d].contains c.toNat

/-- Whether a character separates lines in the eyes of one who measures a text. -/
def isLineSeparator (c : Char) : Bool :=
  [0x0a, 0x1c, 0x1d, 0x1e, 0x85, 0x2028, 0x2029].contains c.toNat

/-- The columns of the widest line of a text. -/
def measure (cs : List Char) : Nat :=
  ((cs.splitOnP isLineSeparator).map width).foldl max 0

/-- Fill up the pieces between tabs, all but the last, to a multiple of eight columns. Before
them stand `column` columns. A tab leaves at least one space. -/
def joinStops (column : Nat) : List (List Char) → List Char
  | [] => []
  | [cs] => cs
  | cs :: rest =>
    let used := column + width (cs ++ [' '])
    let fill := (8 - used % 8) % 8
    cs ++ ' ' :: List.replicate fill ' ' ++ joinStops (used + fill) rest

/-- Replace the tabs of a line by spaces. -/
def expandTabs (cs : List Char) : List Char := joinStops 0 (cs.splitOn '\t')

/-- The runs of a text, each of which has one word and the blanks behind it; blanks in front
are a run too. -/
def runs : List Char → List (List Char)
  | [] => []
  | c :: cs =>
    match runs cs with
    | [] => [[c]]
    | r :: rs =>
      if isBlank c && !(r.head?.map isBlank).getD true then [c] :: r :: rs else (c :: r) :: rs

/-- A text is cut into its runs without a loss. -/
theorem flatten_runs (cs : List Char) : (runs cs).flatten = cs := by
  induction cs with
  | nil => rfl
  | cons c cs ih =>
    unfold runs
    split
    · next h => rw [h] at ih; simp_all
    · next r rs h =>
      rw [h] at ih
      split <;> simp_all

/-- The words of a text with the blanks behind them; the first word has those in front too. -/
def words (cs : List Char) : List (List Char) :=
  match runs cs with
  | [] => []
  | r :: rs =>
    if r.all isBlank then
      match rs with
      | [] => []
      | w :: ws => (r ++ w) :: ws
    else r :: rs

/-- What becomes of a word that is wider than a line. -/
inductive Overflow where
  /-- It goes on in the next line. -/
  | fold
  /-- It is cut off, and an ellipsis stands in its place. -/
  | ellipsis
  deriving DecidableEq, Repr

/-- Lines that are being filled: those that are full, the latest first, the line that words are
added to, and the columns that it has taken. -/
structure Filling where
  full : List (List Char) := []
  line : List Char := []
  used : Nat := 0

namespace Filling

/-- End the line, if there is anything in it. -/
def close (f : Filling) : List (List Char) := if f.line.isEmpty then f.full else f.line :: f.full

def start (full : List (List Char)) (word : List Char) : Filling :=
  { full, line := word, used := width word }

/-- Add a word to lines of `size` columns. -/
def add (o : Overflow) (size : Nat) (f : Filling) (word : List Char) : Filling :=
  let need := width (word.reverse.dropWhile isBlank).reverse
  if f.used + need ≤ size then
    { f with line := f.line ++ word, used := f.used + width word }
  else if o = .fold && size < need then
    match (chopped size word).reverse with
    | [] => { f with line := f.line ++ word }
    | last :: earlier => start (earlier ++ f.close) last
  else start f.close word

end Filling

/-- The lines of `size` columns that the words of a text fill. -/
def filledLines (o : Overflow) (size : Nat) (cs : List Char) : List (List Char) :=
  match words cs with
  | [] => [cs]
  | ws =>
    let f := ws.foldl (Filling.add o size) {}
    (f.line :: f.full).reverse

/-- A line without the blanks at its end that exceed `size` characters. -/
def withoutExcess (size : Nat) (line : List Char) : List Char :=
  let blanks := (line.reverse.takeWhile isBlank).length
  line.take (line.length - min blanks (line.length - size))

def cutLine (o : Overflow) (size : Nat) (line : List Char) : List Char :=
  if width line ≤ size then line
  else
    match o with
    | .fold => fitted size line
    | .ellipsis => fitted (size - 1) line ++ ['…']

/-- The lines of `size` columns in which a text is shown; none if there are no columns. -/
def wrapped (o : Overflow) (size : Nat) (cs : List Char) : List (List Char) :=
  if size = 0 then []
  else
    (cs.splitOn '\n').flatMap fun line =>
      (filledLines o size (expandTabs line)).map fun l => cutLine o size (withoutExcess size l)

def consoleWidth : Nat := 4000

end SyntaxCursor.Display
