import SyntaxCursor.Text.Utf8

/-!
# Lines and columns

A position is a line and a column, both counted from one. Lines end with a line feed, and
columns count characters; a byte that belongs to no well-formed sequence is a character of
its own, so that positions can be translated in any source. Offsets and positions outside
the source are moved to the nearest place inside it.
-/
namespace SyntaxCursor

/-- A line and a character column, both counted from one. -/
structure Position where
  line : Int
  column : Int
  deriving DecidableEq, Repr, Inhabited

def lineFeed : UInt8 := 0x0a

/-- The lines of a source, without the line feeds that end them. -/
def lines : List UInt8 → List (List UInt8)
  | [] => [[]]
  | b :: bytes =>
    if b == lineFeed then [] :: lines bytes
    else
      match lines bytes with
      | [] => [[b]]
      | first :: rest => (b :: first) :: rest

theorem lines_ne_nil (source : List UInt8) : lines source ≠ [] := by
  cases source with
  | nil => simp [lines]
  | cons b bytes => simp only [lines]; split <;> (try split) <;> simp

namespace Position

def toOffset (source : List UInt8) (p : Position) : Nat :=
  let all := lines source
  let index := (max 0 (min ((all.length : Int) - 1) (p.line - 1))).toNat
  let before := (all.take index).flatMap fun line => line ++ [lineFeed]
  let characters := Utf8.characters ((all[index]?).getD [])
  before.length + (characters.take (p.column - 1).toNat).flatten.length

def ofOffset (source : List UInt8) (offset : Int) : Position :=
  let before := lines (source.take (max 0 (min (source.length : Int) offset)).toNat)
  { line := before.length
    column := (Utf8.characters (before.getLast?.getD [])).length + 1 }

end Position

/-- A stretch of a text between two positions. -/
structure Range where
  start : Position
  stop : Position
  deriving DecidableEq, Repr, Inhabited

/-- A stretch of a resource; either part may be left open. -/
structure Location where
  uri : Option String
  range : Option Range
  deriving DecidableEq, Repr, Inhabited

def Range.ofSpan (source : List UInt8) (start stop : Int) : Range :=
  { start := .ofOffset source start, stop := .ofOffset source stop }

end SyntaxCursor
