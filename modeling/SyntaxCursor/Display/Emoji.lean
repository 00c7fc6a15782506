import SyntaxCursor.Display.EmojiTable
import SyntaxCursor.Number.Integer
import SyntaxCursor.Text.Blank
import SyntaxCursor.Text.LowerCase

/-!
# Emoji codes

A name of an emoji between two colons, whatever its case, stands for the emoji. Behind the
name a hyphen and `text` or `emoji` may ask for one of its presentations. A name that is not in
the table stays as it is, colons and all.
-/
namespace SyntaxCursor.Display

structure EmojiEntry where
  /-- Whether there are variants in five skin tones. -/
  toned : Bool
  /-- The code points in hexadecimal digits, with hyphens between them. -/
  code : String
  names : List String
  deriving DecidableEq, Repr, Inhabited

def EmojiEntry.ofString (s : String) : EmojiEntry :=
  match s.splitOn " " with
  | [] => default
  | code :: names =>
    if code.startsWith "+" then { toned := true, code := String.ofList code.toList.tail, names }
    else { toned := false, code, names }

def emojiEntries : List EmojiEntry :=
  (emojiTable.splitOn "\n").flatMap fun line => (line.splitOn ";").map EmojiEntry.ofString

def EmojiEntry.chars (e : EmojiEntry) : List Char :=
  (e.code.splitOn "-").map fun digits =>
    Char.ofNat (Number.ofDigits 16 (digits.toList.filterMap (Number.digitIn? 16)))

/-- The skin tones: how a name says each of them, and its character. -/
def skinTones : List (String × Char) :=
  [("light", Char.ofNat 0x1f3fb), ("medium-light", Char.ofNat 0x1f3fc),
   ("medium", Char.ofNat 0x1f3fd), ("medium-dark", Char.ofNat 0x1f3fe),
   ("dark", Char.ofNat 0x1f3ff)]

/-- The part of a name before the skin tone at its end, and the character of the tone. -/
def splitTone? (name : List Char) : Option (List Char × Char) :=
  skinTones.findSome? fun (tone, c) =>
    let ending := '_' :: tone.toList ++ "_skin_tone".toList
    if ending.isSuffixOf name then some (name.take (name.length - ending.length), c) else none

/-- An emoji in a skin tone: the tone stands behind the first character and takes the place of a
selector there. -/
def withTone (tone : Char) : List Char → List Char
  | [] => []
  | c :: cs => c :: tone :: (if cs.head? == some (Char.ofNat 0xfe0f) then cs.tail else cs)

/-- The emoji of a name in lower case. -/
def emoji? (name : List Char) : Option (List Char) :=
  match emojiEntries.find? fun e => e.names.contains (String.ofList name) with
  | some e => some e.chars
  | none =>
    (splitTone? name).bind fun (base, tone) =>
      (emojiEntries.find? fun e => e.toned && e.names.contains (String.ofList base)).map
        fun e => withTone tone e.chars

/-- The presentations that may be asked for, and the selector of each. -/
def presentations : List (String × Char) :=
  [("-emoji", Char.ofNat 0xfe0f), ("-text", Char.ofNat 0xfe0e)]

/-- The name in an emoji code, and the selector of the presentation that it asks for. -/
def splitPresentation (code : List Char) : List Char × List Char :=
  match presentations.find? fun (ending, _) => ending.toList.isSuffixOf code with
  | some (ending, selector) => (code.take (code.length - ending.length), [selector])
  | none => (code, [])

/-- What stands for the code between two colons. -/
def emojiOfCode? (code : List Char) : Option (List Char) :=
  let (name, selector) := splitPresentation code
  (emoji? (Text.lower name)).map (· ++ selector)

/-- Whether a character can be part of an emoji code. -/
def isCodeChar (c : Char) : Bool := c != ':' && !Text.isBlank c

/-- Replace the emoji codes of a text. A colon that ends a code does not begin another one. -/
def replaceEmoji : List Char → List Char
  | [] => []
  | c :: cs =>
    if c == ':' then
      match h : cs.dropWhile isCodeChar with
      | ':' :: rest =>
        have : rest.length < cs.length := by
          have := (List.dropWhile_suffix isCodeChar : cs.dropWhile isCodeChar <:+ cs).length_le
          rw [h] at this
          exact this
        let code := cs.takeWhile isCodeChar
        (emojiOfCode? code).getD (':' :: code ++ [':']) ++ replaceEmoji rest
      | _ => c :: replaceEmoji cs
    else c :: replaceEmoji cs
termination_by cs => cs.length

end SyntaxCursor.Display
