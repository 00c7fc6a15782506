import SyntaxCursor.Number.Shortest
import SyntaxCursor.Record.Datum

/-!
# Untyped data as JSON text

Integers of any size and floating-point numbers are told apart by how they are written: a
numeral with a point or an exponent is a floating-point number. Texts are written in ASCII,
with escapes in units of sixteen bits for all other characters.
-/
namespace SyntaxCursor.Record

open Number

namespace Json

/-- The characters that may stand between the parts of a text. -/
def isSpace (c : Char) : Bool := c == ' ' || c == '\t' || c == '\n' || c == '\r'

/-- The characters that a backslash and a letter stand for. -/
def escapes : List (Char × Char) :=
  [('"', '"'), ('\\', '\\'), ('/', '/'), ('b', '\x08'), ('f', '\x0c'), ('n', '\n'),
   ('r', '\r'), ('t', '\t')]

/-- Put code points together from units: a high and a low surrogate are one character, and a
lone surrogate is none. -/
def joinUnits : List Nat → List Char
  | [] => []
  | high :: low :: rest =>
    if 0xd800 ≤ high && high < 0xdc00 && 0xdc00 ≤ low && low < 0xe000 then
      Char.ofNat (0x10000 + (high - 0xd800) * 0x400 + (low - 0xdc00)) :: joinUnits rest
    else unit high :: joinUnits (low :: rest)
  | [u] => [unit u]
where
  unit (u : Nat) : Char := if 0xd800 ≤ u && u < 0xe000 then '\ufffd' else Char.ofNat u

/-- The units of a text up to its closing quote, and what follows. -/
def readUnits? : List Char → Option (List Nat × List Char)
  | [] => none
  | '"' :: rest => some ([], rest)
  | '\\' :: 'u' :: a :: b :: c :: d :: rest => do
    let digits ← [a, b, c, d].mapM (digitIn? 16)
    let (units, rest) ← readUnits? rest
    return (ofDigits 16 digits :: units, rest)
  | '\\' :: e :: rest => do
    let c ← escapes.lookup e
    let (units, rest) ← readUnits? rest
    return (c.toNat :: units, rest)
  | c :: rest => do
    let (units, rest) ← readUnits? rest
    return (c.toNat :: units, rest)

/-- The text up to a closing quote, and what follows. -/
def readString? (cs : List Char) : Option (String × List Char) :=
  (readUnits? cs).map fun (units, rest) => (String.ofList (joinUnits units), rest)

/-- Whether a character can be part of a number or a name. -/
def isWordPart (c : Char) : Bool := c.isAlphanum || c == '+' || c == '-' || c == '.'

/-- The value of a number or a name. -/
def wordValue? (word : List Char) : Option Datum :=
  let name := String.ofList word
  if name == "null" then some .null
  else if name == "true" then some (.flag true)
  else if name == "false" then some (.flag false)
  else
    let (negative, digits) := splitSign word
    if !digits.isEmpty && digits.all Char.isDigit then
      some (.int (signed negative (ofDigits 10 (digits.map fun c => c.toNat - 0x30))))
    else (Binary64.literal? word).map .float

mutual

/-- Read a value, and what follows it. -/
def readValue? : Nat → List Char → Option (Datum × List Char)
  | 0, _ => none
  | fuel + 1, cs =>
    match cs.dropWhile isSpace with
    | '"' :: rest => (readString? rest).map fun (s, rest) => (.text s, rest)
    | '[' :: rest =>
      match rest.dropWhile isSpace with
      | ']' :: rest => some (.list [], rest)
      | rest => (readItems? fuel rest).map fun (items, rest) => (.list items, rest)
    | '\x7b' :: rest =>
      match rest.dropWhile isSpace with
      | '\x7d' :: rest => some (.record [], rest)
      | rest => (readFields? fuel rest).map fun (fields, rest) => (.record fields, rest)
    | cs => (wordValue? (cs.takeWhile isWordPart)).map fun d => (d, cs.dropWhile isWordPart)

/-- Read the items of a list that is not empty, up to its closing bracket. -/
def readItems? : Nat → List Char → Option (List Datum × List Char)
  | 0, _ => none
  | fuel + 1, cs => do
    let (d, rest) ← readValue? fuel cs
    match rest.dropWhile isSpace with
    | ']' :: rest => return ([d], rest)
    | ',' :: rest =>
      let (items, rest) ← readItems? fuel rest
      return (d :: items, rest)
    | _ => none

/-- Read the fields of a record that is not empty, up to its closing brace. -/
def readFields? : Nat → List Char → Option (List (String × Datum) × List Char)
  | 0, _ => none
  | fuel + 1, cs => do
    let '"' :: rest := cs.dropWhile isSpace | none
    let (name, rest) ← readString? rest
    let ':' :: rest := rest.dropWhile isSpace | none
    let (d, rest) ← readValue? fuel rest
    match rest.dropWhile isSpace with
    | '\x7d' :: rest => return ([(name, d)], rest)
    | ',' :: rest =>
      let (fields, rest) ← readFields? fuel rest
      return ((name, d) :: fields, rest)
    | _ => none

end

/-- A unit of sixteen bits as an escape. -/
def unitText (u : Nat) : List Char :=
  ['\\', 'u', Nat.digitChar (u / 0x1000 % 16), Nat.digitChar (u / 0x100 % 16),
    Nat.digitChar (u / 0x10 % 16), Nat.digitChar (u % 16)]

def characterText (c : Char) : List Char :=
  if c == '"' || c == '\\' then ['\\', c]
  else if 0x20 ≤ c.toNat && c.toNat < 0x7f then [c]
  else if c.toNat < 0x10000 then unitText c.toNat
  else
    let offset := c.toNat - 0x10000
    unitText (0xd800 + offset / 0x400) ++ unitText (0xdc00 + offset % 0x400)

def stringText (s : String) : String :=
  String.ofList ('"' :: s.toList.flatMap characterText ++ ['"'])

end Json

/-- The datum that a JSON text holds. Every step of the reader takes a character or is
followed by one that does, so that twice the length bounds their number. -/
def Datum.ofJson? (s : String) : Option Datum :=
  let cs := s.toList
  (Json.readValue? (2 * cs.length + 2) cs).bind fun (d, rest) =>
    if rest.all Json.isSpace then some d else none

mutual

def Datum.toJson : Datum → String
  | .null => "null"
  | .flag b => if b then "true" else "false"
  | .int n => integerText n
  | .float x => String.ofList x.text
  | .text s => Json.stringText s
  | .list items => "[" ++ ",".intercalate (itemsJson items) ++ "]"
  | .record fields => "\x7b" ++ ",".intercalate (fieldsJson fields) ++ "\x7d"

/-- The JSON texts of the items of a list. -/
def itemsJson : List Datum → List String
  | [] => []
  | d :: ds => d.toJson :: itemsJson ds

/-- The JSON texts of the fields of a record. -/
def fieldsJson : List (String × Datum) → List String
  | [] => []
  | (name, d) :: fields => (Json.stringText name ++ ":" ++ d.toJson) :: fieldsJson fields

end

end SyntaxCursor.Record
