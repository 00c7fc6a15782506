import SyntaxCursor.Concrete.Numbering

/-!
# The arena of a parse tree

An arena holds the nodes of a parse tree in one array, numbered in pre-order, and links them
by their numbers. `Arena.ofDocument` first lists the nodes with the number of the node each
hangs under, and then hands the numbers of the children up along these links. A node other than
the root that has no children is a token and carries its text.
-/
namespace SyntaxCursor.Concrete

/-- A numbered node of a parse tree. -/
structure Entity extends ParseInfo where
  index : Nat
  parent : Option Nat
  children : List Nat
  isToken : Bool
  /-- The source text of a token; empty for all other nodes. -/
  text : List UInt8
  deriving DecidableEq, Repr, Inhabited

/-- The entity that a listed node becomes. A token is a leaf that hangs under some node. -/
def Entity.ofEntry (source : List UInt8) (children : List Nat) (e : Entry) (i : Nat) : Entity :=
  let isToken := e.parent.isSome && e.isLeaf
  { e.info with
    index := i
    parent := e.parent
    children
    isToken
    text := if isToken then slice source e.info.start e.info.stop else [] }

/-- The nodes of a parse tree, numbered in pre-order. -/
structure Arena where
  source : List UInt8
  entities : Array Entity
  hasError : Bool
  entities_nonempty : 0 < entities.size
  parent_lt : ∀ (i p : Nat) (e : Entity), entities[i]? = some e → e.parent = some p → p < i

namespace Arena

/-- Number the nodes of a document's parse tree. -/
def ofDocument (d : Document) : Arena :=
  let listed := number d.tree.size [(d.tree, none)] #[]
  let lists := childLists listed
  { source := d.source
    entities := listed.mapIdx fun i e => Entity.ofEntry d.source (lists.getD i #[]).toList e i
    hasError := d.hasError
    entities_nonempty := by
      have := d.tree.size_pos
      simpa [listed, number_eq, ParseTree.length_entries] using this
    parent_lt := by
      intro i p e he hp
      obtain ⟨entry, hentry, rfl⟩ := Option.map_eq_some_iff.1 (Array.getElem?_mapIdx ▸ he)
      rw [show listed = _ from number_eq d.tree, List.getElem?_toArray] at hentry
      have := ParseTree.parent_lt_of_entries (by simp) hentry p (by simpa [Entity.ofEntry] using hp)
      omega }

def size (a : Arena) : Nat := a.entities.size

theorem size_pos (a : Arena) : 0 < a.size := a.entities_nonempty

@[simp] theorem size_ofDocument (d : Document) : (ofDocument d).size = d.tree.size := by
  simp [size, ofDocument, number_eq, ParseTree.length_entries]

def entity? (a : Arena) (i : Nat) : Option Entity := a.entities[i]?

def root (a : Arena) : Entity :=
  have := a.entities_nonempty
  a.entities[0]

/-- The number that the entity `i` hangs under. -/
def parent? (a : Arena) (i : Nat) : Option Nat := (a.entity? i).bind (·.parent)

theorem parent?_lt {a : Arena} {i p : Nat} (h : a.parent? i = some p) : p < i := by
  obtain ⟨e, he, hp⟩ := Option.bind_eq_some_iff.1 h
  exact a.parent_lt i p e he hp

/-- The numbers of the entities that enclose entity `i`, the innermost first. -/
def ancestors (a : Arena) (i : Nat) : List Nat :=
  match h : a.parent? i with
  | none => []
  | some p =>
    have := parent?_lt h
    p :: a.ancestors p
termination_by i

theorem ancestors_of_parent?_eq_none {a : Arena} {i : Nat} (h : a.parent? i = none) :
    a.ancestors i = [] := by
  rw [ancestors]; split <;> simp_all

theorem ancestors_of_parent?_eq_some {a : Arena} {i p : Nat} (h : a.parent? i = some p) :
    a.ancestors i = p :: a.ancestors p := by
  rw [ancestors]; split <;> simp_all

/-- The entity that an integer denotes: a negative one counts from the end. -/
def resolve? (a : Arena) (i : Int) : Option Nat :=
  if 0 ≤ i then (if i < a.size then some i.toNat else none)
  else if 0 ≤ i + a.size then some (i + a.size).toNat
  else none

theorem resolve?_lt {a : Arena} {i : Int} {k : Nat} (h : a.resolve? i = some k) : k < a.size := by
  unfold resolve? at h
  split at h <;> split at h <;> simp_all <;> omega

end Arena

end SyntaxCursor.Concrete
