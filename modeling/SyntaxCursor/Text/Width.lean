import SyntaxCursor.Text.Columns

/-!
# Columns of a text

A text takes the columns of its characters, but for two of them. A joiner makes the character
behind it part of the one before, so that it takes no column; and the selector of the emoji
presentation gives the last character with columns a second one, if it has only one. A cluster
is a character with what is drawn together with it: a text is cut between clusters only.
-/
namespace SyntaxCursor.Text

def joiner : Char := Char.ofNat 0x200d

def emojiSelector : Char := Char.ofNat 0xfe0f

/-- The columns of a text behind `last`, the last character with columns, as long as a selector
can still widen it. -/
def widthAfter (last : Option Char) : List Char → Nat
  | [] => 0
  | c :: cs =>
    if c == joiner then
      match cs with
      | [] => 0
      | _ :: rest => widthAfter last rest
    else if c == emojiSelector then
      (if last.any isWidened then 1 else 0) + widthAfter none cs
    else columns c + widthAfter (if columns c = 0 then last else some c) cs

def width (cs : List Char) : Nat := widthAfter none cs

/-- A piece of text that is not cut, and its columns. -/
structure Cluster where
  chars : List Char
  size : Nat
  deriving DecidableEq, Repr, Inhabited

/-- A cluster with more text that widens it by `extra` columns. -/
def Cluster.extend (k : Cluster) (cs : List Char) (extra : Nat) : Cluster :=
  ⟨k.chars ++ cs, k.size + extra⟩

/-- The clusters of a text. Those before it are in `found`, the latest first, and `last` is the
last character with columns. Text without columns goes to the cluster before it, if there is
one. -/
def clustersAfter (found : List Cluster) (last : Option Char) : List Char → List Cluster
  | [] => found.reverse
  | c :: cs =>
    match found with
    | [] =>
      let last := if columns c = 0 then last else some c
      clustersAfter [⟨[c], columns c⟩] last cs
    | k :: ks =>
      if c == joiner then
        match cs with
        | [] => (k.extend [c] 0 :: ks).reverse
        | d :: rest => clustersAfter (k.extend [c, d] 0 :: ks) last rest
      else if c == emojiSelector then
        if last.any isWidened then clustersAfter (k.extend [c] 1 :: ks) none cs
        else clustersAfter (k.extend [c] 0 :: ks) last cs
      else if columns c = 0 then clustersAfter (k.extend [c] 0 :: ks) last cs
      else clustersAfter (⟨[c], columns c⟩ :: k :: ks) (some c) cs

def clusters (cs : List Char) : List Cluster := clustersAfter [] none cs

/-- The clusters that fit into `size` columns. A space stands for the half of one that is cut
through. -/
def takeColumns (size : Nat) : List Cluster → List Char
  | [] => []
  | k :: ks =>
    if size = 0 then []
    else if k.size ≤ size then k.chars ++ takeColumns (size - k.size) ks
    else [' ']

/-- A text filled up with spaces to `size` columns. -/
def padRight (size : Nat) (cs : List Char) : List Char :=
  cs ++ List.replicate (size - width cs) ' '

/-- A text cut or filled up to `size` columns. -/
def fitted (size : Nat) (cs : List Char) : List Char :=
  if width cs ≤ size then padRight size cs else takeColumns size (clusters cs)

/-- The clusters of a text set in lines of `size` columns; `line` is the line so far, and `used`
the columns of it. -/
def chopFrom (size : Nat) (line : List Char) (used : Nat) : List Cluster → List (List Char)
  | [] => if used = 0 then [] else [line]
  | k :: ks =>
    if size < used + k.size then line :: chopFrom size k.chars k.size ks
    else chopFrom size (line ++ k.chars) (used + k.size) ks

/-- A text cut into lines of at most `size` columns. -/
def chopped (size : Nat) (cs : List Char) : List (List Char) :=
  chopFrom size [] 0 (clusters cs)

end SyntaxCursor.Text
