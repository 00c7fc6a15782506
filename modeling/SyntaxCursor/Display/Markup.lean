import SyntaxCursor.Display.Action.Parameters
import SyntaxCursor.Display.Emoji
import SyntaxCursor.Display.Line
import SyntaxCursor.Display.Style

/-!
# Console markup

Text for the console may hold tags in square brackets: an opening tag begins a style or an
action, and a closing tag ends one. A backslash before a tag makes it plain text, and each
further pair of backslashes before it stands for one backslash. `escape` puts backslashes
before all tags of a text; `render` takes the markup away and puts emoji in the place of their
codes. It refuses a closing tag that matches no open one, and tags that cannot be read.
-/
namespace SyntaxCursor.Display

/-- Whether a character can be the first of a tag. -/
def isTagStart (c : Char) : Bool :=
  ('a' ≤ c && c ≤ 'z') || c == '#' || c == '/' || c == '@'

/-- The tag that a text begins with: what stands between its brackets, and the rest. -/
def tagAt? : List Char → Option (List Char × List Char)
  | '[' :: c :: rest =>
    if isTagStart c then
      match rest.dropWhile fun d => d != ']' && d != '[' with
      | ']' :: more => some (c :: rest.takeWhile (fun d => d != ']' && d != '['), more)
      | _ => none
    else none
  | _ => none

/-- A tag is not empty, and the rest is shorter than the text by its brackets too. -/
theorem length_of_tagAt? {cs body rest : List Char} (h : tagAt? cs = some (body, rest)) :
    rest.length + 2 < cs.length := by
  unfold tagAt? at h
  split at h
  · rename_i c tail
    split at h
    · split at h
      · rename_i more hmore
        simp only [Option.some.injEq, Prod.mk.injEq] at h
        obtain ⟨-, rfl⟩ := h
        have := (List.dropWhile_suffix fun d => d != ']' && d != '[' :
          tail.dropWhile (fun d => d != ']' && d != '[') <:+ tail).length_le
        rw [hmore] at this
        simp only [List.length_cons] at *
        omega
      · simp at h
    · simp at h
  · simp at h

/-- Put a backslash before every tag of a text, after doubling the backslashes there. -/
def escape (cs : List Char) : List Char :=
  go 0 cs
where
  /-- `pending` backslashes stand before the text and are still to be written. -/
  go (pending : Nat) (cs : List Char) : List Char :=
    match h : tagAt? cs with
    | some (body, rest) =>
      have := length_of_tagAt? h
      List.replicate (2 * pending + 1) '\\' ++ '[' :: body ++ ']' :: go 0 rest
    | none =>
      match cs with
      | [] => List.replicate pending '\\'
      | c :: rest =>
        if c == '\\' then go (pending + 1) rest
        else List.replicate pending '\\' ++ c :: go 0 rest
  termination_by cs.length

inductive Piece where
  | plain (cs : List Char)
  /-- What stands between the brackets of a tag, and where in the text the tag begins. -/
  | tag (body : List Char) (position : Nat)
  deriving DecidableEq, Repr

/-- Cut a text that begins at `position` into its parts. `before` is the plain text since the
last tag, in reverse, and `pending` backslashes stand after it. -/
def piecesFrom (position pending : Nat) (before cs : List Char) : List Piece :=
  match h : tagAt? cs with
  | some (body, rest) =>
    have := length_of_tagAt? h
    let next := position + body.length + 2
    let head := [Piece.plain before.reverse, .plain (List.replicate (pending / 2) '\\')]
    let tag := if pending % 2 = 1 then .plain ('[' :: body ++ [']']) else .tag body position
    head ++ tag :: piecesFrom next 0 [] rest
  | none =>
    match cs with
    | [] => [.plain (List.replicate pending '\\' ++ before).reverse]
    | c :: rest =>
      if c == '\\' then piecesFrom (position + 1) (pending + 1) before rest
      else piecesFrom (position + 1) 0 (c :: (List.replicate pending '\\' ++ before)) rest
termination_by cs.length

/-- Cut a text into plain parts and tags. -/
def pieces (cs : List Char) : List Piece := piecesFrom 0 0 [] cs

inductive MarkupError where
  /-- No tag of this name is open. -/
  | notOpen (body : List Char) (position : Nat)
  /-- No tag at all is open. -/
  | nothingOpen (position : Nat)
  | action (e : Action.ParameterError)
  /-- The style of a tag has a colour that cannot be read. -/
  | colour (e : ShareError)
  deriving DecidableEq, Repr

def MarkupError.message : MarkupError → String
  | .notOpen body position =>
    "closing tag '[" ++ String.ofList body ++ "]' at position " ++ Number.integerText position ++
      " doesn't match any open tag"
  | .nothingOpen position =>
    "closing tag '[/]' at position " ++ Number.integerText position ++ " has nothing to close"
  | .action e => e.message
  | .colour e => e.message

/-- A tag, which may have parameters behind an equals sign. -/
structure Tag where
  name : List Char
  parameters : Option (List Char) := none
  deriving DecidableEq, Repr

namespace Tag

def ofBody (body : List Char) : Tag :=
  { name := body.takeWhile (· != '=')
    parameters := (body.dropWhile (· != '=')).tail? }

/-- The description of the style that a tag begins. -/
def description (t : Tag) : List Char := t.name ++ (t.parameters.map (' ' :: ·)).getD []

def actionParameters? (t : Tag) : Option (List Char) :=
  if t.name.head? == some '@' then t.parameters.filter (!·.isEmpty) else none

end Tag

/-- The tags that are open, the latest first, and whether a style cannot be read that is only
looked at when all tags are known. -/
structure OpenTags where
  tags : List Tag := []
  fault : Option ShareError := none
  deriving DecidableEq, Repr

namespace OpenTags

/-- Open a tag under the name of its style. -/
def push (o : OpenTags) (t : Tag) : Except MarkupError OpenTags := do
  let name ← (styleName t.name).mapError .colour
  let t := { t with name }
  let fault :=
    match Style.ofText t.description with
    | .error e => some e
    | .ok _ => none
  return { tags := t :: o.tags, fault := o.fault <|> fault }

def pop (o : OpenTags) (t : Tag) : Except MarkupError OpenTags :=
  match t.actionParameters? with
  | none => .ok { o with tags := o.tags.erase t }
  | some parameters =>
    ((Action.check parameters).mapError .action).map fun _ => { o with tags := o.tags.erase t }

/-- Follow the tag with this text between its brackets. -/
def follow (o : OpenTags) (body : List Char) (position : Nat) : Except MarkupError OpenTags :=
  let tag := Tag.ofBody body
  match tag.name with
  | '/' :: rest => do
    let description := Text.trimBy Text.isBlank rest
    if description.isEmpty then
      match o.tags with
      | [] => throw (.nothingOpen position)
      | t :: _ => o.pop t
    else
      let name ← (styleName description).mapError .colour
      match o.tags.find? (·.name == name) with
      | none => throw (.notOpen body position)
      | some t => o.pop t
  | _ => o.push tag

end OpenTags

/-- A backslash before a bracket that begins no tag is not shown. -/
def dropBackslashes : List Char → List Char
  | '\\' :: '[' :: rest => '[' :: dropBackslashes rest
  | c :: rest => c :: dropBackslashes rest
  | [] => []

/-- What is shown for plain text. -/
def shownText (cs : List Char) : List Char :=
  (replaceEmoji cs).filter fun c => !isCursorControl c

/-- The plain text of parts, given the open tags. -/
def renderPieces (o : OpenTags) : List Piece → Except MarkupError (List Char)
  | [] =>
    match o.fault with
    | some e => .error (.colour e)
    | none => .ok []
  | .plain cs :: rest => (renderPieces o rest).map (shownText (dropBackslashes cs) ++ ·)
  | .tag body position :: rest =>
    match o.follow body position with
    | .ok o => renderPieces o rest
    | .error e => .error e

/-- The plain text of a marked-up text. -/
def render (cs : List Char) : Except MarkupError (List Char) :=
  if cs.contains '[' then renderPieces {} (pieces cs) else .ok (shownText cs)

/-- The lines of `size` columns in which a marked-up text is shown. Without columns there is
nothing to show, and the markup is not looked at. -/
def renderLines (o : Overflow) (size : Nat) (cs : List Char) :
    Except MarkupError (List (List Char)) :=
  if size = 0 then .ok [] else (render cs).map (wrapped o size)

end SyntaxCursor.Display
