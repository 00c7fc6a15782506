import SyntaxCursor.Text.Utf8

/-!
# Paths and their URIs

A path is absolute or not and consists of named parts. Repeated slashes, parts that are a
single dot, and a slash at the end do not count; a path that begins with exactly two slashes
differs from one that begins with a single one. A URI is made of the resolved path, in which
a part of two dots takes the part before it away.
-/
namespace SyntaxCursor

inductive PathRoot where
  | relative
  | slash
  | doubleSlash
  deriving DecidableEq, Repr

structure Path where
  root : PathRoot
  parts : List String
  deriving DecidableEq, Repr

namespace Path

/-- The texts between the slashes of a text. -/
def splitSlashes : List Char → List (List Char)
  | [] => [[]]
  | c :: cs =>
    if c == '/' then [] :: splitSlashes cs
    else
      match splitSlashes cs with
      | [] => [[c]]
      | first :: rest => (c :: first) :: rest

def ofString (s : String) : Path :=
  let cs := s.toList
  let slashes := (cs.takeWhile (· == '/')).length
  { root := if slashes = 0 then .relative else if slashes = 2 then .doubleSlash else .slash
    parts := ((splitSlashes cs).map String.ofList).filter fun part => part != "" && part != "." }

/-- How a path is written. The path with neither a root nor parts is a dot. -/
def toString (p : Path) : String :=
  let parts := "/".intercalate p.parts
  match p.root with
  | .relative => if p.parts.isEmpty then "." else parts
  | .slash => "/" ++ parts
  | .doubleSlash => "//" ++ parts

/-- The parts that are left when each part of two dots has taken the one before it away, the
last one first. -/
def resolveParts (done : List String) : List String → List String
  | [] => done
  | part :: rest => if part == ".." then resolveParts done.tail rest
    else resolveParts (part :: done) rest

/-- The absolute path without parts of two dots. -/
def resolve (p : Path) : Path :=
  { root := .slash, parts := (resolveParts [] p.parts).reverse }

/-- Whether a byte stands for itself in a URI's path. -/
def isUnreserved (b : UInt8) : Bool :=
  let c := Char.ofNat b.toNat
  c.isAlphanum || ['_', '.', '-', '~', '/'].contains c

/-- A byte in a URI: itself, or a percent sign and two upper-case hexadecimal digits. -/
def percentEncoded (b : UInt8) : List Char :=
  if isUnreserved b then [Char.ofNat b.toNat]
  else
    let digit := fun (n : Nat) => (Nat.digitChar n).toUpper
    ['%', digit (b.toNat / 16), digit (b.toNat % 16)]

/-- Whether a null character is in a path. No file has such a path. -/
def hasNull (p : Path) : Bool := p.parts.any fun part => part.toList.contains '\x00'

/-- The URI of a file. A path with a null character has none. -/
def toUri? (p : Path) : Option String :=
  if p.hasNull then none
  else
    some ("file://" ++ String.ofList ((Utf8.encode p.resolve.toString).flatMap percentEncoded))

end Path

end SyntaxCursor
