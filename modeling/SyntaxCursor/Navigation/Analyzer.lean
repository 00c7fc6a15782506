import SyntaxCursor.Abstract.Place
import SyntaxCursor.Conversion.Kind

/-!
# Class analyzers

An analyzer is shown the class nodes of a finished tree and may edit the node it is shown: it
may append a scalar to its children, change its kind, and then give up. The nodes to go through
are listed before the first edit, in document order. Each is shown to one analyzer after another,
as it has become by then; it counts as a class node by the kind it has when it is reached.
Analyzers outlive the parse of a file, and remember all they were shown.
-/
namespace SyntaxCursor.Navigation

open Abstract Conversion

/-- What an analyzer does with a node that it is shown. -/
structure Edit where
  append : Option Scalar := none
  kind : Option String := none
  /-- The reason for which it gives up after its edits, if it does. -/
  failure : Option String := none
  deriving DecidableEq, Repr, Inhabited

def Edit.apply (e : Edit) (n : Node) : Node :=
  { info := { n.info with kind := e.kind.getD n.info.kind }
    children := n.children ++ e.append.toList.map .scalar }

/-- An analyzer was shown a node of a file, which had these children then. -/
structure Call where
  analyzer : String
  path : String
  node : NodeInfo
  children : List Item
  deriving Inhabited

/-- An analyzer. Unless it is told otherwise, it does the same with every node. -/
structure Analyzer extends Edit where
  name : String := ""
  /-- What it does at a call, which may depend on all the calls made before. -/
  react : List Call → Call → Edit := fun _ _ => { append, kind, failure }
  deriving Inhabited

/-- A tree that is shown to analyzers. -/
structure Analysis where
  tree : Node
  /-- The calls made for this tree so far. -/
  calls : List Call := []
  /-- Why the last call was given up, if it was. -/
  failure : Option String := none

namespace Analysis

section Visit

variable (path : String) (before : List Call) (s : Analysis) (place : Nat)

/-- Show the node at a place to an analyzer, unless one has given up. Of the calls that the
analyzer remembers, `before` are those that were not made for this tree. -/
def consult (a : Analyzer) : Analysis :=
  match s.failure, s.tree.nodes[place]? with
  | none, some n =>
    let call : Call := { analyzer := a.name, path, node := n.info, children := n.children }
    let edit := a.react (before ++ s.calls) call
    { tree := s.tree.modifyAt edit.apply place
      calls := s.calls ++ [call]
      failure := edit.failure }
  | _, _ => s

/-- Show the node at a place to all analyzers, if it is a class node. -/
def visit (analyzers : List Analyzer) : Analysis :=
  if (s.tree.nodes[place]?).any (·.info.kind == classKind) then
    analyzers.foldl (consult path before · place) s
  else s

end Visit

end Analysis

/-- Show the class nodes of a tree to analyzers. -/
def analyze (analyzers : List Analyzer) (path : String) (before : List Call) (tree : Node) :
    Analysis :=
  if analyzers.isEmpty then { tree }
  else
    (List.range tree.nodes.length).foldl
      (fun s place => s.visit path before place analyzers) { tree }

end SyntaxCursor.Navigation
