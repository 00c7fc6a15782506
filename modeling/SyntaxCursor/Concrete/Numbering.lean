import SyntaxCursor.Concrete.ParseTree

/-!
# Numbering the nodes of a parse tree

`number` goes through a parse tree with a stack. A node that is taken off gets the next free
number, and its children are put on the stack, the last of them first, each with this number.
`childLists` then goes through the listed nodes once more and hands the number of each to the
node it hangs under. The list is the pre-order of the tree (`number_eq`), and the numbers that
a node is handed are those of the nodes listed under it (`getElem?_childLists`).
-/
namespace SyntaxCursor.Concrete

/-- A node as it is listed: under which number it hangs, and whether it has no children. -/
structure Entry where
  parent : Option Nat
  info : ParseInfo
  isLeaf : Bool
  deriving DecidableEq, Repr, Inhabited

/-- Put the children of node `index` on a stack, the first of them uppermost. -/
def pushChildren (index : Nat) (children : List ParseTree)
    (stack : List (ParseTree × Option Nat)) : List (ParseTree × Option Nat) :=
  children.reverse.foldl (fun stack child => (child, some index) :: stack) stack

theorem pushChildren_eq (index : Nat) (children : List ParseTree)
    (stack : List (ParseTree × Option Nat)) :
    pushChildren index children stack =
      children.map (fun child => (child, some index)) ++ stack := by
  rw [pushChildren, List.foldl_reverse]
  induction children with
  | nil => rfl
  | cons child children ih => rw [List.foldr_cons, ih, List.map_cons, List.cons_append]

/-- List the trees of a stack behind the nodes that are listed already. Each step takes one
node off the stack. -/
def number : Nat → List (ParseTree × Option Nat) → Array Entry → Array Entry
  | 0, _, listed => listed
  | _, [], listed => listed
  | fuel + 1, (.node info children, parent) :: stack, listed =>
    number fuel (pushChildren listed.size children stack)
      (listed.push ⟨parent, info, children.isEmpty⟩)

/-- Hand a number to the node it hangs under. -/
def handUp (lists : Array (Array Nat)) (e : Entry) (i : Nat) : Array (Array Nat) :=
  match e.parent with
  | none => lists
  | some p => lists.modify p (·.push i)

/-- The numbers of the children of every listed node. -/
def childLists (listed : Array Entry) : Array (Array Nat) :=
  listed.zipIdx.foldl (fun lists (e, i) => handUp lists e i) (Array.replicate listed.size #[])

namespace ParseTree

mutual

/-- The nodes of a tree in pre-order, the first of which gets the number `next`. -/
def entries (parent : Option Nat) (next : Nat) : ParseTree → List Entry
  | .node info children =>
    ⟨parent, info, children.isEmpty⟩ :: entriesList next (next + 1) children

/-- The nodes of trees that hang under one node. -/
def entriesList (parent next : Nat) : List ParseTree → List Entry
  | [] => []
  | t :: ts => entries (some parent) next t ++ entriesList parent (next + t.size) ts

end

theorem entries_node (parent : Option Nat) (next : Nat) (info : ParseInfo)
    (children : List ParseTree) : entries parent next (.node info children) =
      ⟨parent, info, children.isEmpty⟩ :: entriesList next (next + 1) children := by
  rw [entries]

theorem entriesList_nil (parent next : Nat) : entriesList parent next [] = [] := by
  rw [entriesList]

theorem entriesList_cons (parent next : Nat) (t : ParseTree) (ts : List ParseTree) :
    entriesList parent next (t :: ts) =
      entries (some parent) next t ++ entriesList parent (next + t.size) ts := by
  rw [entriesList]

mutual

theorem length_entries (parent : Option Nat) (next : Nat) (t : ParseTree) :
    (entries parent next t).length = t.size := by
  match t with
  | .node info children =>
    rw [entries_node, List.length_cons, length_entriesList, size_node]

theorem length_entriesList (parent next : Nat) (ts : List ParseTree) :
    (entriesList parent next ts).length = sizes ts := by
  match ts with
  | [] => simp [entriesList_nil]
  | t :: ts =>
    rw [entriesList_cons, List.length_append, length_entries, length_entriesList, sizes_cons]

end

mutual

/-- A node hangs under a node with a smaller number. -/
theorem parent_lt_of_entries {parent : Option Nat} {next : Nat} {t : ParseTree}
    (hp : ∀ p ∈ parent, p < next) {k : Nat} {e : Entry}
    (he : (entries parent next t)[k]? = some e) : ∀ p ∈ e.parent, p < next + k := by
  match t with
  | .node info children =>
    rw [entries_node] at he
    cases k with
    | zero =>
      obtain rfl : ⟨parent, info, children.isEmpty⟩ = e := by simpa using he
      simpa using hp
    | succ k =>
      rw [List.getElem?_cons_succ] at he
      have := parent_lt_of_entriesList (Nat.lt_succ_self next) he
      intro p hp
      have := this p hp
      omega

theorem parent_lt_of_entriesList {parent next : Nat} {ts : List ParseTree}
    (hp : parent < next) {k : Nat} {e : Entry}
    (he : (entriesList parent next ts)[k]? = some e) : ∀ p ∈ e.parent, p < next + k := by
  match ts with
  | [] => simp [entriesList_nil] at he
  | t :: ts =>
    rw [entriesList_cons] at he
    by_cases hk : k < (entries (some parent) next t).length
    · rw [List.getElem?_append_left hk] at he
      exact parent_lt_of_entries (by simpa using hp) he
    · rw [List.getElem?_append_right (by omega), length_entries] at he
      rw [length_entries] at hk
      have := parent_lt_of_entriesList (by omega : parent < next + t.size) he
      intro p hp
      have := this p hp
      omega

end

end ParseTree

mutual

/-- A tree on top of the stack is listed in pre-order before what is below it. -/
theorem number_cons (t : ParseTree) (parent : Option Nat)
    (stack : List (ParseTree × Option Nat)) (listed : Array Entry) (fuel : Nat) :
    number (t.size + fuel) ((t, parent) :: stack) listed =
      number fuel stack (listed ++ (t.entries parent listed.size).toArray) := by
  match t with
  | .node info children =>
    have hfuel : (ParseTree.node info children).size + fuel =
        ParseTree.sizes children + fuel + 1 := by
      rw [ParseTree.size_node]
      omega
    rw [hfuel, number, pushChildren_eq, number_map_append, Array.size_push,
      ParseTree.entries_node]
    simp

theorem number_map_append (ts : List ParseTree) (parent : Nat)
    (stack : List (ParseTree × Option Nat)) (listed : Array Entry) (fuel : Nat) :
    number (ParseTree.sizes ts + fuel)
        (ts.map (fun child => (child, some parent)) ++ stack) listed =
      number fuel stack
        (listed ++ (ParseTree.entriesList parent listed.size ts).toArray) := by
  match ts with
  | [] => simp [ParseTree.entriesList_nil]
  | t :: ts =>
    rw [ParseTree.sizes_cons, Nat.add_assoc, List.map_cons, List.cons_append, number_cons,
      number_map_append, ParseTree.entriesList_cons]
    simp [ParseTree.length_entries]

end

/-- A tree is numbered in pre-order, with as many steps as it has nodes. -/
theorem number_eq (t : ParseTree) :
    number t.size [(t, none)] #[] = (t.entries none 0).toArray := by
  have h := number_cons t none [] #[] 0
  rw [Nat.add_zero, number] at h
  simpa using h

/-- The numbers of the nodes that hang under node `p`, in increasing order. -/
def childrenOf (entries : List Entry) (p : Nat) : List Nat :=
  entries.zipIdx.filterMap fun (e, i) => if e.parent == some p then some i else none

theorem getElem?_handUp (lists : Array (Array Nat)) (e : Entry) (i p : Nat) :
    (handUp lists e i)[p]? =
      lists[p]?.map fun numbers => if e.parent = some p then numbers.push i else numbers := by
  cases hp : e.parent with
  | none => simp [handUp, hp]
  | some q =>
    rw [handUp, hp, Array.getElem?_modify]
    by_cases hq : q = p <;> simp [hq]

theorem getElem?_foldl_handUp (listed : List (Entry × Nat)) (lists : Array (Array Nat))
    (p : Nat) :
    (listed.foldl (fun lists (e, i) => handUp lists e i) lists)[p]? =
      lists[p]?.map (· ++ (listed.filterMap fun (e, i) =>
        if e.parent == some p then some i else none).toArray) := by
  induction listed generalizing lists with
  | nil => simp
  | cons entry listed ih =>
    obtain ⟨e, i⟩ := entry
    rw [List.foldl_cons, ih, getElem?_handUp, Option.map_map]
    congr 1
    funext numbers
    by_cases h : e.parent = some p <;> simp [h]

/-- A listed node is handed the numbers of those that hang under it. -/
theorem getElem?_childLists {listed : Array Entry} {p : Nat} (hp : p < listed.size) :
    (childLists listed)[p]? = some (childrenOf listed.toList p).toArray := by
  rw [childLists, ← Array.foldl_toList, getElem?_foldl_handUp, Array.getElem?_replicate,
    if_pos hp, Array.toList_zipIdx]
  simp [childrenOf]

end SyntaxCursor.Concrete
