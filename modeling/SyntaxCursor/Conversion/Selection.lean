import SyntaxCursor.Conversion.Walk

/-!
# Marking the selected node

A selection holds the entity that a request is about and the entities that enclose it. While
the tree is built from the inside out, the first of these whose items are a single node gets
its node marked; then the selection is resolved and nothing else is marked.
-/
namespace SyntaxCursor.Conversion

open Abstract Concrete

/-- The entity that a request is about, if there is one. -/
structure Selection where
  /-- The number given for the entity; a negative one counts from the end of the arena. -/
  index : Option Int := none
  /-- The entities that enclose it, the innermost first. -/
  ancestors : List Nat := []
  /-- Whether its node has been marked. -/
  resolved : Bool := false
  deriving DecidableEq, Repr, Inhabited

namespace Selection

/-- Whether there is no entity to mark a node for. -/
def isEmpty (s : Selection) : Bool := s.index.isNone

/-- The enclosing entities from the outermost on, which is the order of their numbers. -/
def enclosing (s : Selection) : List Nat := s.ancestors.reverse

/-- Select an entity, or none. The number is set in any case; if no entity has it, the rest
of the selection stays as it was and the answer is `false`. -/
def select (s : Selection) (a : Arena) (index : Option Int) : Selection × Bool :=
  match index with
  | none => ({}, true)
  | some i =>
    match a.resolve? i with
    | some k => ({ index := some i, ancestors := a.ancestors k, resolved := false }, true)
    | none => ({ s with index := some i }, false)

/-- Whether the node of entity `i` may be marked. -/
def concerns (s : Selection) (i : Nat) : Bool :=
  s.index == some (i : Int) || s.ancestors.contains i

end Selection

/-- A step of a request that can be traced. -/
inductive Event where
  | searching (offset : Int)
  | located (entity : Option Entity)
  | marked (node : NodeInfo) (entity : Entity)
  deriving DecidableEq, Repr

/-- A selection while a tree is built, and what was marked, with the selection as it was
then. -/
structure Overlay where
  selection : Selection
  marks : List (Event × Selection) := []
  deriving Repr

/-- The hook that marks the selected node. -/
def mark : Finish Overlay := fun e items o =>
  let s := o.selection
  if s.isEmpty || s.resolved || !s.concerns e.index then (items, o)
  else
    match singleNode? items with
    | none => (items, o)
    | some n =>
      let info := { n.info with selected := true }
      let s := { s with resolved := true }
      ([.node info n.children], { selection := s, marks := o.marks ++ [(.marked info e, s)] })

end SyntaxCursor.Conversion
