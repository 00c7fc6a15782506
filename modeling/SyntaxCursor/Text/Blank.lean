/-!
# Blank characters

Two classes of blank characters and what it means to trim them. `isWhiteSpace` is the
Unicode property `White_Space`; `isBlank` adds the four ASCII information separators.
Numerals are trimmed by the first, names and words by the second.
-/
namespace SyntaxCursor.Text

/-- The Unicode property `White_Space`: 25 code points. -/
def isWhiteSpace (c : Char) : Bool :=
  let n := c.toNat
  (0x09 ≤ n && n ≤ 0x0d) || n == 0x20 || n == 0x85 || n == 0xa0 || n == 0x1680 ||
    (0x2000 ≤ n && n ≤ 0x200a) || n == 0x2028 || n == 0x2029 || n == 0x202f || n == 0x205f ||
    n == 0x3000

/-- White space and the ASCII separators `U+001C` to `U+001F`. -/
def isBlank (c : Char) : Bool :=
  isWhiteSpace c || (0x1c ≤ c.toNat && c.toNat ≤ 0x1f)

/-- Remove the longest run of characters with property `p` from both ends. -/
def trimBy (p : Char → Bool) (cs : List Char) : List Char :=
  ((cs.dropWhile p).reverse.dropWhile p).reverse

def trim (s : String) : String :=
  String.ofList (trimBy isBlank s.toList)

end SyntaxCursor.Text
