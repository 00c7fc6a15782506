import SyntaxCursor.Concrete.Arena
import SyntaxCursor.Conversion.Rule

/-!
# The walk over the arena

The conversion goes through the arena with a stack of tasks. Entering a token or a missing
entity yields its items at once; entering any other entity puts the task of leaving it below
the tasks of entering its children. Leaving it takes the items of its children from the
results, which are kept with the latest first. Every list of items passes through a hook,
which may look at it, change it and keep a state of its own.
-/
namespace SyntaxCursor.Conversion

open Abstract Concrete

/-- A hook for the items of a finished entity. -/
abbrev Finish (σ : Type) := Entity → List Item → σ → List Item × σ

/-- What is to be done with the entity of a number. -/
inductive Task where
  | enter (index : Nat)
  | leave (index : Nat)
  deriving DecidableEq, Repr

/-- How far a walk has come. -/
structure Progress (σ : Type) where
  /-- The items of the finished entities that are not yet part of another, the latest first. -/
  results : List (List Item)
  diagnostics : List Diagnostic
  state : σ

namespace Progress

variable {σ : Type}

def finish (p : Progress σ) (hook : Finish σ) (e : Entity) (items : List Item) : Progress σ :=
  let (items, state) := hook e items p.state
  { p with results := items :: p.results, state }

def report (p : Progress σ) (d : Diagnostic) : Progress σ :=
  { p with diagnostics := p.diagnostics ++ [d] }

/-- Take the latest `n` results out, joined in the order in which they were finished. -/
def take? (p : Progress σ) (n : Nat) : Option (List Item × Progress σ) :=
  if n ≤ p.results.length then
    some ((p.results.take n).reverse.flatten, { p with results := p.results.drop n })
  else none

end Progress

section Walk

variable {σ : Type} (a : Arena) (version : Int) (hook : Finish σ)

/-- Begin with an entity: the tasks that this brings, and the progress it makes. -/
def enter (e : Entity) (p : Progress σ) : List Task × Progress σ :=
  if e.isMissing then
    ([], (p.report (.missing e.toParseInfo)).finish hook e [])
  else if e.isToken && !e.isError then
    ([], p.finish hook e (tokenItems version e.toParseInfo e.text))
  else
    (e.children.map .enter ++ [.leave e.index],
      if e.isError then p.report (.unexpected e.toParseInfo) else p)

def leave? (e : Entity) (p : Progress σ) : Option (Progress σ) :=
  (p.take? e.children.length).map fun (children, p) =>
    p.finish hook e (nodeItems version e.toParseInfo children)

/-- Do the tasks of a stack; `none` if an entity or a result is not where it should be, or if
there are more tasks than `fuel`. -/
def walk? : Nat → List Task → Progress σ → Option (Progress σ)
  | _, [], p => some p
  | 0, _ :: _, _ => none
  | fuel + 1, .enter i :: tasks, p =>
    (a.entity? i).bind fun e =>
      let (more, p) := enter version hook e p
      walk? fuel (more ++ tasks) p
  | fuel + 1, .leave i :: tasks, p =>
    (a.entity? i).bind fun e =>
      (leave? version hook e p).bind fun p => walk? fuel tasks p

end Walk

/-- An abstract tree, what was reported about its source, and the final state of the hook. -/
structure Build (σ : Type) where
  tree : Node
  diagnostics : List Diagnostic
  state : σ

/-- Convert a whole arena. Every entity is entered and left at most once, which bounds the
number of tasks. -/
def build? {σ : Type} (a : Arena) (version : Int) (hook : Finish σ) (state : σ) :
    Option (Build σ) :=
  (walk? a version hook (2 * a.size) [.enter 0] ⟨[], [], state⟩).bind fun p =>
    p.results.head?.map fun items =>
      { tree := rootNode a.root.toParseInfo items
        diagnostics := p.diagnostics
        state := p.state }

/-- The hook that leaves all items as they are. -/
def keep : Finish Unit := fun _ items s => (items, s)

/-- The hook that notes the number of each finished entity and of its items. -/
def count : Finish (List (Nat × Nat)) := fun e items s => (items, s ++ [(e.index, items.length)])

end SyntaxCursor.Conversion
