import SyntaxCursor.Text.Printable

/-!
# Quoted text

A text is shown between two quotation marks. The mark is the apostrophe, unless the text has
an apostrophe and no double quotation mark. The mark and the backslash are written after a
backslash, tab, line feed and carriage return by their letters, and any other unprintable
character by its code point in two, four or eight hexadecimal digits.
-/
namespace SyntaxCursor.Text

/-- The lower-case hexadecimal digits of `n`, filled up with zeros to `size` of them. -/
def hexDigits (size n : Nat) : List Char :=
  let digits := Nat.toDigits 16 n
  List.replicate (size - digits.length) '0' ++ digits

/-- The quotation mark that a text is shown between. -/
def quotationMark (cs : List Char) : Char :=
  if cs.contains '\x27' && !cs.contains '\x22' then '\x22' else '\x27'

/-- One character of a text that is shown between `mark`s. -/
def quotedChar (mark c : Char) : List Char :=
  if c == mark || c == '\\' then ['\\', c]
  else if c == '\t' then ['\\', 't']
  else if c == '\n' then ['\\', 'n']
  else if c == '\r' then ['\\', 'r']
  else if isPrintable c then [c]
  else if c.toNat < 0x100 then '\\' :: 'x' :: hexDigits 2 c.toNat
  else if c.toNat < 0x10000 then '\\' :: 'u' :: hexDigits 4 c.toNat
  else '\\' :: 'U' :: hexDigits 8 c.toNat

def quoted (cs : List Char) : List Char :=
  let mark := quotationMark cs
  mark :: cs.flatMap (quotedChar mark) ++ [mark]

end SyntaxCursor.Text
