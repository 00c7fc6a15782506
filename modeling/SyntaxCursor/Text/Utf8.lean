/-!
# Reading UTF-8

Bytes are read from left to right. At each place either a well-formed sequence begins, or
the bytes are ill-formed there. `characters` cuts bytes into well-formed sequences and
single bytes, so that nothing is lost; `decode` turns them into text and puts one
replacement character for each longest ill-formed stretch that begins a sequence.
-/
namespace SyntaxCursor.Utf8

/-- The closed ranges in which the bytes after a lead byte have to lie, in order; `none` for
a byte that leads no sequence. -/
def following? (lead : UInt8) : Option (List (UInt8 × UInt8)) :=
  if lead ≤ 0x7f then some []
  else if lead < 0xc2 then none
  else if lead ≤ 0xdf then some [(0x80, 0xbf)]
  else if lead == 0xe0 then some [(0xa0, 0xbf), (0x80, 0xbf)]
  else if lead == 0xed then some [(0x80, 0x9f), (0x80, 0xbf)]
  else if lead ≤ 0xef then some [(0x80, 0xbf), (0x80, 0xbf)]
  else if lead == 0xf0 then some [(0x90, 0xbf), (0x80, 0xbf), (0x80, 0xbf)]
  else if lead ≤ 0xf3 then some [(0x80, 0xbf), (0x80, 0xbf), (0x80, 0xbf)]
  else if lead == 0xf4 then some [(0x80, 0x8f), (0x80, 0xbf), (0x80, 0xbf)]
  else none

/-- How many bytes at the front lie each in its range. -/
def fitting : List (UInt8 × UInt8) → List UInt8 → Nat
  | (lo, hi) :: ranges, b :: bytes =>
    if lo ≤ b && b ≤ hi then fitting ranges bytes + 1 else 0
  | _, _ => 0

/-- The number of bytes after `lead` in the well-formed sequence that begins there; `none`
if none begins. -/
def sequence? (lead : UInt8) (bytes : List UInt8) : Option Nat :=
  (following? lead).bind fun ranges =>
    if fitting ranges bytes = ranges.length then some ranges.length else none

/-- The number of bytes after `lead` in the longest stretch that begins a sequence. -/
def stretch (lead : UInt8) (bytes : List UInt8) : Nat :=
  match following? lead with
  | some ranges => fitting ranges bytes
  | none => 0

/-- Cut bytes into characters: well-formed sequences, and single bytes elsewhere. -/
def characters : List UInt8 → List (List UInt8)
  | [] => []
  | lead :: bytes =>
    let n := (sequence? lead bytes).getD 0
    (lead :: bytes.take n) :: characters (bytes.drop n)
termination_by bytes => bytes.length

/-- Nothing is lost by cutting. -/
@[simp] theorem flatten_characters (bytes : List UInt8) : (characters bytes).flatten = bytes := by
  induction bytes using characters.induct with
  | case1 => simp [characters]
  | case2 lead bytes n ih => simp [characters, n, ih]

/-- The code point of a well-formed sequence. -/
def codePoint : List UInt8 → Nat
  | [a] => a.toNat
  | [a, b] => (a.toNat % 0x20) * 0x40 + b.toNat % 0x40
  | [a, b, c] => (a.toNat % 0x10) * 0x1000 + (b.toNat % 0x40) * 0x40 + c.toNat % 0x40
  | [a, b, c, d] =>
    (a.toNat % 0x08) * 0x40000 + (b.toNat % 0x40) * 0x1000 + (c.toNat % 0x40) * 0x40 +
      d.toNat % 0x40
  | _ => 0xfffd

/-- The text of bytes, with `U+FFFD` for what is ill-formed. -/
def decode : List UInt8 → List Char
  | [] => []
  | lead :: bytes =>
    match sequence? lead bytes with
    | some n => Char.ofNat (codePoint (lead :: bytes.take n)) :: decode (bytes.drop n)
    | none => '\ufffd' :: decode (bytes.drop (stretch lead bytes))
termination_by bytes => bytes.length

def encode (s : String) : List UInt8 :=
  s.toUTF8.data.toList

end SyntaxCursor.Utf8
