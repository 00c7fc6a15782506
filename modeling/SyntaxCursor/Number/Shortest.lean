import SyntaxCursor.Number.Binary64

/-!
# The shortest decimal that reads back

A finite number is the nearest one to all reals of an interval around it. `shortest` looks
for a decimal in that interval, with one digit first, then with two, and so on; on each grid
only the two neighbours of the number itself have to be tried. `text` lays the digits out:
positional between `1e-4` and `1e16`, with an exponent elsewhere.
-/
namespace SyntaxCursor.Number.Binary64

/-- A magnitude and the ends of the interval that rounds to it, as integers over one common
denominator; the ends belong to the interval when `closed`. -/
structure Interval where
  low : Nat
  value : Nat
  high : Nat
  denominator : Nat
  closed : Bool

/-- The interval of reals that round to a finite number. Below a power of two the numbers lie
twice as close as above it. -/
def interval (x : Binary64) : Interval :=
  let m := x.significand
  let below := if x.fraction == 0 && 1 < x.exponentField then 1 else 2
  let q := x.scale - 2
  let factor := Nat.pow 2 q.toNat
  { low := (4 * m - below) * factor
    value := 4 * m * factor
    high := (4 * m + 2) * factor
    denominator := Nat.pow 2 (-q).toNat
    closed := m % 2 == 0 }

/-- Whether `c`, over the same denominator, lies in the interval. -/
def Interval.contains (i : Interval) (c : Nat) : Bool :=
  if i.closed then i.low ≤ c && c ≤ i.high else i.low < c && c < i.high

/-- All members of an interval and its denominator times a power of ten. -/
def Interval.shift (i : Interval) (places : Int) : Interval :=
  let up := Nat.pow 10 places.toNat
  { low := i.low * up
    value := i.value * up
    high := i.high * up
    denominator := i.denominator * Nat.pow 10 (-places).toNat
    closed := i.closed }

/-- The place of the decimal point relative to the first digit: `p` with
`10 ^ (p - 1) ≤ value < 10 ^ p`. -/
def Interval.point (i : Interval) : Int :=
  let guess : Int :=
    ((Nat.toDigits 10 i.value).length : Int) - (Nat.toDigits 10 i.denominator).length
  let j := i.shift (-guess)
  if j.denominator ≤ j.value then guess + 1 else guess

/-- The decimal of the interval on the grid of `10 ^ -places` that is nearest to the value, as
a multiple of the grid's step; of two equally near the even one. -/
def Interval.onGrid? (i : Interval) (places : Int) : Option Nat :=
  let j := i.shift places
  let below := j.value / j.denominator
  let above := below + 1
  let fits := fun d => j.contains (d * j.denominator)
  let gapBelow := j.value - below * j.denominator
  let gapAbove := above * j.denominator - j.value
  let preferBelow := gapBelow < gapAbove || (gapBelow == gapAbove && below % 2 == 0)
  if fits below && (preferBelow || !fits above) then some below
  else if fits above then some above
  else none

/-- The fewest digits of a decimal in the interval, and where its point stands. -/
def Interval.shortest (i : Interval) : List Char × Int :=
  let p := i.point
  let found := (List.range 17).findSome? fun (k : Nat) =>
    let places : Int := (k : Int) + 1 - p
    (i.onGrid? places).map fun d => (Nat.toDigits 10 d, places)
  match found with
  | some (digits, places) =>
    ((digits.reverse.dropWhile (· == '0')).reverse, (digits.length : Int) - places)
  | none => (['0'], 1)

/-- Lay digits out, given where the decimal point stands relative to the first of them. -/
def layout (digits : List Char) (point : Int) : List Char :=
  if -4 < point && point ≤ 0 then
    '0' :: '.' :: List.replicate (-point).toNat '0' ++ digits
  else if 0 < point && point ≤ 16 then
    if digits.length ≤ point.toNat then
      digits ++ List.replicate (point.toNat - digits.length) '0' ++ ['.', '0']
    else digits.take point.toNat ++ '.' :: digits.drop point.toNat
  else
    let exponent := point - 1
    let size := Nat.toDigits 10 exponent.natAbs
    let padded := if size.length < 2 then '0' :: size else size
    let mantissa :=
      match digits with
      | d :: e :: rest => d :: '.' :: e :: rest
      | _ => digits
    mantissa ++ 'e' :: (if exponent < 0 then '-' else '+') :: padded

def text (x : Binary64) : List Char :=
  if x.isNaN then ['n', 'a', 'n']
  else
    let magnitude :=
      if x.isInfinite then ['i', 'n', 'f']
      else if x.significand == 0 then ['0', '.', '0']
      else
        let (digits, point) := x.interval.shortest
        layout digits point
    if x.isNegative then '-' :: magnitude else magnitude

end SyntaxCursor.Number.Binary64
