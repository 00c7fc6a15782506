import SyntaxCursor.Display.Colour
import SyntaxCursor.Text.LowerCase

/-!
# Styles

A style is described by words: attributes, some with shorthands; `not` before an attribute; a
colour; `on` before the colour of the background; and `link` before an address. Descriptions of
one style have the same name, which is how a closing tag finds the tag that it closes. Text
that describes no style is a name on its own.
-/
namespace SyntaxCursor.Display

/-- What a style can ask of letters, in the order in which it is told. -/
inductive Attribute where
  | bold | dim | italic | underline | blink | blink2 | reverse | conceal | strike | underline2
  | frame | encircle | overline
  deriving DecidableEq, Repr

namespace Attribute

def all : List Attribute :=
  [bold, dim, italic, underline, blink, blink2, reverse, conceal, strike, underline2, frame,
   encircle, overline]

def name : Attribute → String
  | bold => "bold"
  | dim => "dim"
  | italic => "italic"
  | underline => "underline"
  | blink => "blink"
  | blink2 => "blink2"
  | reverse => "reverse"
  | conceal => "conceal"
  | strike => "strike"
  | underline2 => "underline2"
  | frame => "frame"
  | encircle => "encircle"
  | overline => "overline"

def shorthand? : Attribute → Option String
  | bold => some "b"
  | dim => some "d"
  | italic => some "i"
  | underline => some "u"
  | reverse => some "r"
  | conceal => some "c"
  | strike => some "s"
  | underline2 => some "uu"
  | overline => some "o"
  | _ => none

/-- The attribute that a word stands for. -/
def ofWord? (word : List Char) : Option Attribute :=
  all.find? fun a => a.name.toList == word || (a.shorthand?.map String.toList) == some word

theorem mem_all (a : Attribute) : a ∈ all := by
  cases a <;> decide

theorem ofWord?_name (a : Attribute) : ofWord? a.name.toList = some a := by
  cases a <;> decide

end Attribute

structure Style where
  /-- The attributes that are asked for or ruled out, the latest first. -/
  attributes : List (Attribute × Bool) := []
  colour : Option (List Char) := none
  background : Option (List Char) := none
  link : Option (List Char) := none
  deriving DecidableEq, Repr, Inhabited

namespace Style

/-- Read the words of a description, if they are one. The case of a word does not matter, except
behind `not` and `link`. -/
def read (s : Style) : List (List Char) → Except ShareError (Option Style)
  | [] => .ok (some s)
  | original :: rest =>
    let word := Text.lower original
    if word == "on".toList then
      match rest with
      | [] => .ok none
      | next :: rest => do
        let colour := Text.lower next
        if ← isColour colour then read { s with background := some colour } rest else return none
    else if word == "not".toList then
      match rest with
      | [] => .ok none
      | next :: rest =>
        match Attribute.ofWord? next with
        | some a => read { s with attributes := (a, false) :: s.attributes } rest
        | none => .ok none
    else if word == "link".toList then
      match rest with
      | [] => .ok none
      | next :: rest => read { s with link := some next } rest
    else
      match Attribute.ofWord? word with
      | some a => read { s with attributes := (a, true) :: s.attributes } rest
      | none => do
        if ← isColour word then read { s with colour := some word } rest else return none

def ofText (cs : List Char) : Except ShareError (Option Style) :=
  if Text.trimBy Text.isBlank cs == "none".toList then .ok (some {})
  else read {} ((cs.splitOnP Text.isBlank).filter fun word => !word.isEmpty)

/-- The words that tell about one attribute. -/
def attributeWords (s : Style) (a : Attribute) : List (List Char) :=
  match s.attributes.find? fun (b, _) => b == a with
  | none => []
  | some (_, true) => [a.name.toList]
  | some (_, false) => ["not".toList, a.name.toList]

/-- The description that is the name of a style. -/
def name (s : Style) : List Char :=
  let words := Attribute.all.flatMap s.attributeWords ++ s.colour.toList ++
    (s.background.toList.flatMap fun c => ["on".toList, c]) ++
    s.link.toList.flatMap fun l => ["link".toList, l]
  if words.isEmpty then "none".toList else [' '].intercalate words

end Style

/-- The name of what a text describes. -/
def styleName (cs : List Char) : Except ShareError (List Char) :=
  (Style.ofText cs).map fun s =>
    (s.map Style.name).getD (Text.lower (Text.trimBy Text.isBlank cs))

end SyntaxCursor.Display
