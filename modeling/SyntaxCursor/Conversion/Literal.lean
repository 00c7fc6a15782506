import SyntaxCursor.Abstract.Node

/-!
# Scalars from tokens

Names and parts of strings become text. An integer may have underscores at any places; a
leading zero makes it octal. A number that cannot be read stays the text it was.
-/
namespace SyntaxCursor.Conversion

open Number Abstract

/-- The digits of a number with its underscores left out. -/
def withoutUnderscores (cs : List Char) : List Char := cs.filter (· != '_')

/-- A number that is written as a zero and more digits is octal: give it the mark for that. -/
def markOctal : List Char → List Char
  | '0' :: d :: rest =>
    if (d :: rest).all fun c => (Text.decimalValue? c).isSome then '0' :: 'o' :: d :: rest
    else '0' :: d :: rest
  | cs => cs

/-- The value of an integer literal, or its text. -/
def integerScalar (cs : List Char) : Scalar :=
  match Number.literal? (markOctal (withoutUnderscores cs)) with
  | some n => .int n
  | none => .text (String.ofList cs)

/-- The value of a floating-point literal, or its text. -/
def floatScalar (cs : List Char) : Scalar :=
  match Binary64.literal? (withoutUnderscores cs) with
  | some x => .float x
  | none => .text (String.ofList cs)

/-- How a named token of some kind becomes a scalar; `none` if it becomes a node. -/
def scalarOf? (kind : String) : Option (List Char → Scalar) :=
  if ["name", "string_content", "string_value", "escape_sequence"].contains kind then
    some fun cs => .text (String.ofList cs)
  else if kind == "integer" then some integerScalar
  else if kind == "float" then some floatScalar
  else none

end SyntaxCursor.Conversion
