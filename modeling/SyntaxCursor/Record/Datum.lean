import SyntaxCursor.Number.Binary64

/-!
# Untyped data and what is wrong with it

Records come from outside as untyped data. Reading one collects everything that is wrong with
it: each issue says at which place of the datum it is and what kind it has. Scalars are read
leniently, so that a numeral is accepted for an integer and a word for a flag.
-/
namespace SyntaxCursor.Record

open Number

/-- Untyped data. -/
inductive Datum where
  | null
  | flag (b : Bool)
  | int (n : Int)
  | float (x : Binary64)
  | text (s : String)
  | list (items : List Datum)
  | record (fields : List (String × Datum))
  deriving Inhabited

/-- The value of a field; of several with one name the last counts. -/
def field? (fields : List (String × Datum)) (name : String) : Option Datum :=
  fields.reverse.lookup name

/-- A step to a part of a datum. -/
inductive Step where
  | name (s : String)
  | index (i : Nat)
  deriving DecidableEq, Repr

inductive Fault where
  | missing
  | notInteger
  | notText
  | notFlag
  | notFloat
  | notList
  | notRecord
  /-- A text that is no numeral. -/
  | badNumeral
  /-- A numeral with too many digits. -/
  | integerSize
  /-- A number with a fractional part in the place of an integer. -/
  | fractional
  | notFinite
  /-- A word or number that stands for no flag. -/
  | flagText
  deriving DecidableEq, Repr

def Fault.code : Fault → String
  | .missing => "missing"
  | .notInteger => "int_type"
  | .notText => "string_type"
  | .notFlag => "bool_type"
  | .notFloat => "float_type"
  | .notList => "list_type"
  | .notRecord => "model_type"
  | .badNumeral => "int_parsing"
  | .integerSize => "int_parsing_size"
  | .fractional => "int_from_float"
  | .notFinite => "finite_number"
  | .flagText => "bool_parsing"

/-- A fault at a place of a datum. -/
structure Issue where
  path : List Step
  fault : Fault
  deriving DecidableEq, Repr

/-- A value, or all that is wrong with the datum it was read from. -/
abbrev Checked (α : Type) := Except (List Issue) α

namespace Checked

/-- A single fault of the whole datum. -/
def fail {α : Type} (fault : Fault) : Checked α := .error [⟨[], fault⟩]

/-- A function that is to be applied to checked values. -/
def start {α : Type} (f : α) : Checked α := .ok f

/-- The issues of a part as issues of the whole. -/
def within {α : Type} (step : Step) (c : Checked α) : Checked α :=
  c.mapError fun issues => issues.map fun i => { i with path := step :: i.path }

/-- Apply a checked function to a checked value; the issues of both are kept, in order. -/
def apply {α β : Type} : Checked (α → β) → Checked α → Checked β
  | .ok f, .ok a => .ok (f a)
  | .ok _, .error e => .error e
  | .error e, .ok _ => .error e
  | .error e, .error e' => .error (e ++ e')

end Checked

def required {α : Type} (fields : List (String × Datum)) (name : String)
    (read : Datum → Checked α) : Checked α :=
  (match field? fields name with
    | none => Checked.fail .missing
    | some d => read d).within (.name name)

/-- Read a field that may be left out. -/
def optional {α : Type} (fields : List (String × Datum)) (name : String) (default : α)
    (read : Datum → Checked α) : Checked α :=
  match field? fields name with
  | none => .ok default
  | some d => (read d).within (.name name)

/-- Whether a character is a decimal digit other than zero. -/
def isLeadingDigit (c : Char) : Bool := '1' ≤ c && c ≤ '9'

/-- The part of an unsigned numeral that counts. A zero at its front is passed over with all
zeros and underscores behind it, up to a leading digit, which a minus sign may precede; before
a point, or at the end, the last character that was passed over stays. -/
def significantPart? : List Char → Option (List Char)
  | [] => none
  | c :: cs =>
    if isLeadingDigit c then some (c :: cs)
    else if c == '0' then
      let passed := cs.takeWhile fun d => d == '0' || d == '_'
      let last := passed.getLast?.getD '0'
      match cs.dropWhile fun d => d == '0' || d == '_' with
      | [] => some [last]
      | d :: ds =>
        if d == '.' then some (last :: d :: ds)
        else if d == '-' || isLeadingDigit d then some (d :: ds)
        else none
    else none

/-- A numeral without the point and the zeros at its end. -/
def withoutPlaces (cs : List Char) : List Char :=
  let places := (cs.dropWhile (· != '.')).tail
  if !places.isEmpty && places.all (· == '0') then cs.takeWhile (· != '.') else cs

/-- A numeral without its underscores, as long as each of them stands alone and inside. -/
def withoutGroups (cs : List Char) : List Char :=
  let doubled := (cs.zip cs.tail).contains ('_', '_')
  if doubled || cs.head? == some '_' || cs.getLast? == some '_' then cs
  else cs.filter (· != '_')

/-- The natural number that a run of ASCII digits stands for. Too many digits count as a fault
of their own, whatever comes behind them. -/
def readDigits (cs : List Char) : Checked Nat :=
  let digits := cs.takeWhile Char.isDigit
  if digits.head? == some '0' && 1 < digits.length then Checked.fail .badNumeral
  else if decimalLimit < digits.length then Checked.fail .integerSize
  else if digits.isEmpty || digits.length < cs.length then Checked.fail .badNumeral
  else .ok (ofDigits 10 (digits.map fun c => c.toNat - 0x30))

/-- The integer that a text stands for: white space around it, a sign, zeros in front, single
underscores between the digits, and a point with zeros behind it are allowed. -/
def readNumeral (s : String) : Checked Int :=
  let (negative, rest) := splitSign (Text.trimBy Text.isWhiteSpace s.toList)
  match (significantPart? rest).map fun cs => withoutGroups (withoutPlaces cs) with
  | none => Checked.fail .badNumeral
  | some ('-' :: cs) =>
    if negative then Checked.fail .badNumeral else (readDigits cs).map (signed true)
  | some cs => (readDigits cs).map (signed negative)

/-- A bound for the magnitude of the integers that are read from floating-point numbers. -/
def wholeLimit : Nat := 0x8000000000000000

/-- The integer that a floating-point number is equal to. -/
def readWhole (x : Binary64) : Checked Int :=
  if x.isNaN || x.isInfinite then Checked.fail .notFinite
  else
    match x.toInt? with
    | none => Checked.fail .fractional
    | some n => if n.natAbs < wholeLimit then .ok n else Checked.fail .integerSize

def readInteger : Datum → Checked Int
  | .int n => .ok n
  | .flag b => .ok (if b then 1 else 0)
  | .float x => readWhole x
  | .text s => readNumeral s
  | _ => Checked.fail .notInteger

def readText : Datum → Checked String
  | .text s => .ok s
  | _ => Checked.fail .notText

/-- The flag that a word stands for, whatever its case. -/
def flagOfWord? (s : String) : Option Bool :=
  let word := String.ofList (s.toList.map Char.toLower)
  if ["1", "on", "t", "true", "y", "yes"].contains word then some true
  else if ["0", "off", "f", "false", "n", "no"].contains word then some false
  else none

/-- The flag that an integer stands for. -/
def flagOfInteger (n : Int) : Checked Bool :=
  if n = 1 then .ok true else if n = 0 then .ok false else Checked.fail .flagText

/-- Whether an integer fits a word of sixty-four bits, one of them for the sign. -/
def fitsWord (n : Int) : Bool := -(wholeLimit : Int) ≤ n && n < wholeLimit

/-- Read a flag. A number that is no integer, or a very large one, is not taken for a flag. -/
def readFlag : Datum → Checked Bool
  | .flag b => .ok b
  | .int n => if fitsWord n then flagOfInteger n else Checked.fail .notFlag
  | .float x =>
    match readWhole x with
    | .ok n => flagOfInteger n
    | .error _ => Checked.fail .notFlag
  | .text s =>
    match flagOfWord? s with
    | some b => .ok b
    | none => Checked.fail .flagText
  | _ => Checked.fail .notFlag

end SyntaxCursor.Record
