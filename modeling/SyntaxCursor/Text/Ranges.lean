/-!
# Ranges of characters

A class of characters is given by a table of closed ranges of code points.
-/
namespace SyntaxCursor.Text

/-- Whether the code point of a character is in one of the ranges. -/
def inRanges (ranges : List (Nat × Nat)) (c : Char) : Bool :=
  ranges.any fun r => r.1 ≤ c.toNat && c.toNat ≤ r.2

end SyntaxCursor.Text
