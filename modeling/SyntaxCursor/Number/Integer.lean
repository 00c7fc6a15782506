import SyntaxCursor.Text.Blank
import SyntaxCursor.Text.DecimalDigit

/-!
# Reading and writing integers

A numeral may have white space around it, a sign, and digits of any script. In base ten it
may group its digits with single underscores and has at most `decimalLimit` digits; a
numeral with a base mark (`0x`, `0o`, `0b`) has no limit. Writing has the same limit.
-/
namespace SyntaxCursor.Number

/-- The most decimal digits that an integer is read from or written with. -/
def decimalLimit : Nat := 4300

/-- The value of a sequence of digits, the highest first. -/
def ofDigits (base : Nat) (digits : List Nat) : Nat :=
  digits.foldl (fun n d => n * base + d) 0

theorem ofDigits_concat (base : Nat) (digits : List Nat) (d : Nat) :
    ofDigits base (digits ++ [d]) = ofDigits base digits * base + d := by
  simp [ofDigits]

/-- The value of an ASCII digit or letter in a base of at most sixteen. -/
def digitIn? (base : Nat) (c : Char) : Option Nat :=
  let value :=
    if '0' ≤ c && c ≤ '9' then some (c.toNat - 0x30)
    else if 'a' ≤ c && c ≤ 'f' then some (c.toNat - 0x61 + 10)
    else if 'A' ≤ c && c ≤ 'F' then some (c.toNat - 0x41 + 10)
    else none
  value.filter (· < base)

/-- The digits of a non-empty run in which single underscores may stand between digits. -/
def digits? (base : Nat) : List Char → Option (List Nat)
  | [] => none
  | [c] => (digitIn? base c).map ([·])
  | c :: '_' :: rest => do return (← digitIn? base c) :: (← digits? base rest)
  | c :: rest => do return (← digitIn? base c) :: (← digits? base rest)

/-- Separate the sign: whether it is a minus, and what follows. -/
def splitSign : List Char → Bool × List Char
  | '-' :: rest => (true, rest)
  | '+' :: rest => (false, rest)
  | cs => (false, cs)

/-- An integer from its sign and its magnitude. -/
def signed (negative : Bool) (magnitude : Nat) : Int :=
  if negative then -(magnitude : Int) else magnitude

/-- A numeral without the white space around it and with ASCII digits for those of other
scripts. -/
def plainNumeral (cs : List Char) : List Char :=
  (Text.trimBy Text.isWhiteSpace cs).map Text.asciiDigit

/-- The magnitude of an unsigned numeral in base ten. -/
def decimalMagnitude? (cs : List Char) : Option Nat :=
  (digits? 10 cs).bind fun digits =>
    if digits.length ≤ decimalLimit then some (ofDigits 10 digits) else none

def decimal? (cs : List Char) : Option Int :=
  let (negative, rest) := splitSign (plainNumeral cs)
  (decimalMagnitude? rest).map (signed negative)

/-- The base that a mark after a leading zero stands for. -/
def baseOfMark? (c : Char) : Option Nat :=
  if c == 'x' || c == 'X' then some 16
  else if c == 'o' || c == 'O' then some 8
  else if c == 'b' || c == 'B' then some 2
  else none

/-- The digits behind a base mark; one underscore may come first. -/
def markedMagnitude? (base : Nat) (cs : List Char) : Option Nat :=
  (digits? base (if cs.head? == some '_' then cs.tail else cs)).map (ofDigits base)

/-- The magnitude of an unsigned numeral that may have a base mark. Without a mark only zero
may be written with a leading zero. -/
def magnitude? : List Char → Option Nat
  | '0' :: c :: rest =>
    match baseOfMark? c with
    | some base => markedMagnitude? base rest
    | none => (decimalMagnitude? ('0' :: c :: rest)).filter (· == 0)
  | cs => decimalMagnitude? cs

/-- Read a numeral that may have a base mark. -/
def literal? (cs : List Char) : Option Int :=
  let (negative, rest) := splitSign (plainNumeral cs)
  (magnitude? rest).map (signed negative)

/-- Whether an integer has too many digits to be written in base ten. -/
def tooLong (n : Int) : Bool :=
  Nat.pow 10 decimalLimit ≤ n.natAbs

/-- The decimal digits of an integer, after a minus sign if it is negative. -/
def decimalText (n : Int) : List Char :=
  if n < 0 then '-' :: Nat.toDigits 10 n.natAbs else Nat.toDigits 10 n.natAbs

def integerText (n : Int) : String := String.ofList (decimalText n)

end SyntaxCursor.Number
