import SyntaxCursor.Abstract.Node
import SyntaxCursor.Display.Markup
import SyntaxCursor.Number.Shortest

/-!
# Abstract trees on the console

Every node of an abstract tree is one branch of the tree that is shown. Its label has the
kind, the line and the byte span of the node, the scalars among its children, and a mark if
it is selected. An integer with too many digits cannot be written, and so its label cannot. The
branches under a branch are all added before any of them is visited; the nodes still to be
visited wait on a stack, each with the place of its branch. A guide of four columns leads to the
branches of a branch; the columns that are left are those of its label, and where there are none
it has no label at all.
-/
namespace SyntaxCursor.Display

open Abstract Number

/-- An integer has too many digits to be written. -/
structure NumeralTooLong where
  deriving DecidableEq, Repr

def NumeralTooLong.message (_ : NumeralTooLong) : String :=
  "Exceeds the limit (4300 digits) for integer string conversion; " ++
    "use sys.set_int_max_str_digits() to increase the limit"

def numeralText (n : Int) : Except NumeralTooLong (List Char) :=
  if tooLong n then .error ⟨⟩ else .ok (decimalText n)

def scalarText : Scalar → Except NumeralTooLong (List Char)
  | .null => .ok "None".toList
  | .text s => .ok (Text.quoted s.toList)
  | .int n => numeralText n
  | .float x => .ok x.text

/-- The label of a node whose extent and scalars are shown by these texts. -/
def labelOf (info : NodeInfo) (extent : List Char) (scalars : List (List Char)) : List Char :=
  let text := info.kind.toList ++ " [dim](line ".toList ++ extent ++ ")[/dim]".toList ++
    (if scalars.isEmpty then [] else ' ' :: ", ".toList.intercalate scalars)
  if info.selected then "[bold green]".toList ++ text ++ " <selected>[/bold green]".toList
  else text

def label (n : Node) : Except NumeralTooLong (List Char) := do
  let extent := (← numeralText n.info.line) ++ ", ".toList ++ (← numeralText n.info.start) ++
    "..".toList ++ (← numeralText n.info.stop)
  let scalars ← n.scalars.mapM scalarText
  return labelOf n.info extent (scalars.map escape)

inductive DisplayTree (α : Type) where
  | branch (label : α) (branches : List (DisplayTree α))

namespace DisplayTree

variable {α : Type}

/-- The branch at a place, which tells the branch to take at each step from the root. -/
def branchAt? : DisplayTree α → List Nat → Option (DisplayTree α)
  | t, [] => some t
  | .branch _ branches, i :: place => branches[i]?.bind (·.branchAt? place)

/-- Put a branch in the stead of the one at a place. -/
def put : DisplayTree α → List Nat → DisplayTree α → DisplayTree α
  | _, [], u => u
  | .branch label branches, i :: place, u => .branch label (branches.modify i (·.put place u))

/-- Add a branch as the last one under the branch at a place, and tell the place of the new one. -/
def add (t : DisplayTree α) (place : List Nat) (label : α) : DisplayTree α × List Nat :=
  match t.branchAt? place with
  | some (.branch above branches) =>
    (t.put place (.branch above (branches ++ [.branch label []])), place ++ [branches.length])
  | none => (t, place)

end DisplayTree

/-- A tree of which the labels are still to be written out. -/
abbrev LabelTree : Type := DisplayTree (Except NumeralTooLong (List Char))

/-- Add branches for nodes under the branch at a place, in order. The answer has each of the nodes
with the place of its branch. -/
def addNodes (place : List Nat) : List Node → LabelTree → LabelTree × List (Node × List Nat)
  | [], t => (t, [])
  | n :: ns, t =>
    let (t, own) := t.add place (label n)
    let (t, added) := addNodes place ns t
    (t, (n, own) :: added)

/-- Grow a tree from a stack of nodes that have their branches already: take the uppermost, add
branches for its child nodes, and put these in its place. -/
def grow : Nat → List (Node × List Nat) → LabelTree → LabelTree
  | 0, _, t => t
  | _, [], t => t
  | fuel + 1, (current, place) :: stack, t =>
    let (t, added) := addNodes place current.childNodes t
    grow fuel (added ++ stack) t

/-- The tree that is shown for an abstract tree: the branches under a branch are added in document
order before any of them is visited. -/
def displayTree (n : Node) : LabelTree := grow n.size [(n, [])] (.branch (label n) [])

inductive DisplayError where
  | markup (e : MarkupError)
  | numeral (e : NumeralTooLong)
  deriving DecidableEq, Repr

def DisplayError.message : DisplayError → String
  | .markup e => e.message
  | .numeral e => e.message

mutual

/-- Write out the labels of a tree. -/
def written {ε α : Type} : DisplayTree (Except ε α) → Except ε (DisplayTree α)
  | .branch label branches => do return .branch (← label) (← writtenList branches)

/-- Write out the labels of a list of trees. -/
def writtenList {ε α : Type} : List (DisplayTree (Except ε α)) → Except ε (List (DisplayTree α))
  | [] => .ok []
  | t :: ts => do return (← written t) :: (← writtenList ts)

end

/-- The columns of a guide. -/
def guideWidth : Nat := 4

mutual

/-- The lines of a branch whose label has `size` columns: `first` stands before the first line
of the label, and `others` before all other lines. -/
def branchLines (size : Nat) (first others : List Char) :
    DisplayTree (List Char) → Except MarkupError (List (List Char))
  | .branch label branches => do
    let shown ← renderLines .fold size label
    let below ← listLines (size - guideWidth) others branches
    let head := (shown.head?.toList.map (first ++ ·)) ++ shown.tail.map (others ++ ·)
    return head ++ below

/-- The lines of the branches under a node, the last of which closes the guide. -/
def listLines (size : Nat) (before : List Char) :
    List (DisplayTree (List Char)) → Except MarkupError (List (List Char))
  | [] => .ok []
  | [t] => branchLines size (before ++ "└── ".toList) (before ++ "    ".toList) t
  | t :: ts => do
    let upper ← branchLines size (before ++ "├── ".toList) (before ++ "│   ".toList) t
    let lower ← listLines size before ts
    return upper ++ lower

end

/-- The lines that show an abstract tree. -/
def treeLines (n : Node) : Except DisplayError (List (List Char)) := do
  let t ← (written (displayTree n)).mapError .numeral
  (branchLines consoleWidth [] [] t).mapError .markup

end SyntaxCursor.Display
