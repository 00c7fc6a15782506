import SyntaxCursor.Number.Integer

/-!
# Binary floating-point numbers

A number of the 64-bit binary interchange format is kept as its bits. A decimal is rounded
to the nearest number, and text is read by the grammar of decimal literals: digits with at
most one point, an optional exponent, or a name for infinity or for no number.
-/
namespace SyntaxCursor.Number

/-- A floating-point number: its 64 bits, the sign bit first. -/
structure Binary64 where
  bits : UInt64
  deriving DecidableEq, Repr, Inhabited

namespace Binary64

def isNegative (x : Binary64) : Bool := x.bits >>> 63 == 1

/-- The eleven exponent bits. -/
def exponentField (x : Binary64) : Nat := ((x.bits >>> 52) &&& 0x7ff).toNat

/-- The fifty-two bits behind the leading digit. -/
def fraction (x : Binary64) : Nat := (x.bits &&& 0xfffffffffffff).toNat

def isNaN (x : Binary64) : Bool := x.exponentField == 0x7ff && x.fraction != 0

def isInfinite (x : Binary64) : Bool := x.exponentField == 0x7ff && x.fraction == 0

/-- The integer `m` of the magnitude `m * 2 ^ q` of a finite number. -/
def significand (x : Binary64) : Nat :=
  if x.exponentField == 0 then x.fraction else x.fraction + 0x10000000000000

/-- The exponent `q` of the magnitude `m * 2 ^ q` of a finite number. -/
def scale (x : Binary64) : Int :=
  if x.exponentField == 0 then -1074 else (x.exponentField : Int) - 1075

def nan : Binary64 := ⟨0x7ff8000000000000⟩

def infinity : Binary64 := ⟨0x7ff0000000000000⟩

/-- The number with its sign bit set as told. -/
def withSign (negative : Bool) (x : Binary64) : Binary64 :=
  ⟨(x.bits &&& 0x7fffffffffffffff) ||| (if negative then 0x8000000000000000 else 0)⟩

/-- The number nearest to `digits * 10 ^ exponent`, of two equally near the even one. A
decimal of 310 places before the point or more is beyond all finite numbers, and one with
330 zeros behind the point is below half of the least. -/
def ofDecimal (digits : Nat) (exponent : Int) : Binary64 :=
  let point := (Nat.toDigits 10 digits).length + exponent
  if digits == 0 || point < -330 then ⟨0⟩
  else if 310 < point then infinity
  else ⟨(Float.ofScientific digits (exponent < 0) exponent.natAbs).toBits⟩

/-- The integer that a finite number without a fractional part is equal to. -/
def toInt? (x : Binary64) : Option Int :=
  if x.exponentField == 0x7ff then none
  else if 0 ≤ x.scale then
    some (signed x.isNegative (x.significand * Nat.pow 2 x.scale.toNat))
  else
    let unit := Nat.pow 2 (-x.scale).toNat
    if x.significand % unit == 0 then some (signed x.isNegative (x.significand / unit)) else none

/-- The exponent part of a literal: nothing, or `e` with a signed run of digits. -/
def exponentPart? : List Char → Option Int
  | [] => some 0
  | e :: rest =>
    if e == 'e' || e == 'E' then
      let (negative, digits) := splitSign rest
      if digits.isEmpty || !digits.all Char.isDigit then none
      else some (signed negative (ofDigits 10 (digits.map fun c => c.toNat - 0x30)))
    else none

/-- An unsigned decimal literal: digits with at most one point and an optional exponent. -/
def unsignedDecimal? (cs : List Char) : Option Binary64 :=
  let whole := cs.takeWhile Char.isDigit
  let rest := cs.dropWhile Char.isDigit
  let (places, rest) :=
    match rest with
    | '.' :: more => (more.takeWhile Char.isDigit, more.dropWhile Char.isDigit)
    | _ => ([], rest)
  let digits := whole ++ places
  if digits.isEmpty then none
  else (exponentPart? rest).map fun e =>
    ofDecimal (ofDigits 10 (digits.map fun c => c.toNat - 0x30)) (e - places.length)

/-- An unsigned literal: a name, whatever its case, or a decimal. -/
def unsignedLiteral? (cs : List Char) : Option Binary64 :=
  let name := String.ofList (cs.map Char.toLower)
  if name == "inf" || name == "infinity" then some infinity
  else if name == "nan" then some nan
  else unsignedDecimal? cs

def literal? (cs : List Char) : Option Binary64 :=
  let (negative, rest) := splitSign (plainNumeral cs)
  (unsignedLiteral? rest).map (withSign negative)

end Binary64

end SyntaxCursor.Number
