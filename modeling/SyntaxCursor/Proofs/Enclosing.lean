import Mathlib.Data.List.Nodup
import SyntaxCursor.Proofs.Encoding
import SyntaxCursor.Proofs.Locating

/-!
# The enclosing entities

Climbing from an entity by the links to parents comes to an end at the root, since each link leads
to a smaller number. It meets every entity from which the first is reached by going down, and it
takes as many steps as there are levels of the parse tree above the entity
(`Arena.ancestors_enclose`).
-/
namespace SyntaxCursor.Concrete

namespace ParseTree

mutual

/-- The levels of the nodes of a tree in pre-order, the root of which is on `level`. -/
def levels (level : Nat) : ParseTree → List Nat
  | .node _ children => level :: levelsList (level + 1) children

/-- The levels of the nodes of trees of which the roots are on one `level`. -/
def levelsList (level : Nat) : List ParseTree → List Nat
  | [] => []
  | t :: ts => levels level t ++ levelsList level ts

end

theorem levels_node (level : Nat) (info : ParseInfo) (children : List ParseTree) :
    levels level (.node info children) = level :: levelsList (level + 1) children := by
  rw [levels]

@[simp] theorem levelsList_nil (level : Nat) : levelsList level [] = [] := by rw [levelsList]

theorem levelsList_cons (level : Nat) (t : ParseTree) (ts : List ParseTree) :
    levelsList level (t :: ts) = levels level t ++ levelsList level ts := by
  rw [levelsList]

/-- How deep the node with the number `i` is; the root is not deep at all. -/
def depth? (t : ParseTree) (i : Nat) : Option Nat := (t.levels 0)[i]?

theorem getLast?_pathTo (i k : Nat) (t : ParseTree) : (pathTo i k t).getLast? = some k := by
  cases t with
  | node info children =>
    rw [pathTo_node]
    split
    · rfl
    · exact List.getLast?_concat

end ParseTree

namespace Arena

/-- The entity that a number of links to parents lead to. -/
def climb? (a : Arena) : Nat → Nat → Option Nat
  | 0, i => some i
  | links + 1, i => (a.parent? i).bind (a.climb? links)

section Climb

variable {a : Arena}

/-- What encloses an entity is met link by link, and behind the last there is nothing. -/
theorem getElem?_ancestors (n i : Nat) : (a.ancestors i)[n]? = a.climb? (n + 1) i := by
  induction n generalizing i with
  | zero =>
    cases hp : a.parent? i with
    | none => simp [climb?, hp, ancestors_of_parent?_eq_none hp]
    | some p => simp [climb?, hp, ancestors_of_parent?_eq_some hp]
  | succ n ih =>
    rw [climb?]
    cases hp : a.parent? i with
    | none => simp [ancestors_of_parent?_eq_none hp]
    | some p => rw [ancestors_of_parent?_eq_some hp, List.getElem?_cons_succ, ih, Option.bind_some]

theorem head?_ancestors (i : Nat) : (a.ancestors i).head? = a.parent? i := by
  cases hp : a.parent? i with
  | none => rw [ancestors_of_parent?_eq_none hp, List.head?_nil]
  | some p => rw [ancestors_of_parent?_eq_some hp, List.head?_cons]

/-- Every link leads to a smaller number. -/
theorem pairwise_chain (i : Nat) : (a.chain i).Pairwise (· > ·) := by
  induction i using Nat.strongRecOn with
  | ind i ih =>
    cases hp : a.parent? i with
    | none =>
      rw [chain, ancestors_of_parent?_eq_none hp]
      exact List.pairwise_singleton _ _
    | some p =>
      have hparent : (a.chain p).Pairwise (· > ·) := ih p (parent?_lt hp)
      refine List.Pairwise.cons (fun j hj => lt_of_mem_ancestors hj) ?_
      rwa [ancestors_of_parent?_eq_some hp]

theorem nodup_ancestors (i : Nat) : (a.ancestors i).Nodup :=
  (List.pairwise_cons.1 (pairwise_chain i)).2.imp Nat.ne_of_gt

mutual

/-- In a held tree, each entity has as many others around it as its level tells. -/
theorem Holds.levels_eq {parent : Option Nat} {k : Nat} {t : ParseTree}
    (h : a.Holds parent k t) :
    t.levels (a.ancestors k).length =
      (List.range' k t.size).map fun i => (a.ancestors i).length := by
  match t with
  | .node info children =>
    rw [ParseTree.levels_node, (holds_node.1 h).2.levelsList_eq, ParseTree.size_node,
      List.range'_succ, List.map_cons]

theorem HoldsList.levelsList_eq {parent next : Nat} {ts : List ParseTree}
    (h : a.HoldsList parent next ts) :
    ParseTree.levelsList ((a.ancestors parent).length + 1) ts =
      (List.range' next (ParseTree.sizes ts)).map fun i => (a.ancestors i).length := by
  match ts with
  | [] => simp
  | t :: ts =>
    obtain ⟨ht, hts⟩ := holdsList_cons.1 h
    have hlevel : (a.ancestors parent).length + 1 = (a.ancestors next).length := by
      rw [ancestors_of_parent?_eq_some ht.parent?_eq, List.length_cons]
    rw [ParseTree.levelsList_cons, hts.levelsList_eq, hlevel, ht.levels_eq, ParseTree.sizes_cons,
      ← List.range'_append_1, List.map_append]

end

end Climb

section OfDocument

variable (d : Document)

/-- The climb from any other entity ends at the root. -/
theorem getLast?_ancestors {k : Nat} (hk : k < (ofDocument d).size) :
    ((ofDocument d).ancestors k).getLast? = if k = 0 then none else some 0 := by
  have hlast := ParseTree.getLast?_pathTo k 0 d.tree
  rw [← chain_ofDocument d hk, chain, List.getLast?_cons] at hlast
  by_cases hzero : k = 0
  · rw [if_pos hzero, hzero, ancestors_zero, List.getLast?_nil]
  · rw [if_neg hzero]
    cases hup : ((ofDocument d).ancestors k).getLast? with
    | none =>
      rw [hup] at hlast
      exact absurd (Option.some.inj hlast) hzero
    | some j =>
      rw [hup] at hlast
      exact hlast

/-- The number of entities around an entity is its depth in the parse tree. -/
theorem depth?_eq {k : Nat} (hk : k < (ofDocument d).size) :
    d.tree.depth? k = some ((ofDocument d).ancestors k).length := by
  have hlevels := (holds_ofDocument d).levels_eq
  rw [ancestors_zero] at hlevels
  rw [size_ofDocument] at hk
  rw [ParseTree.depth?, ← List.length_nil, hlevels, List.getElem?_map,
    List.getElem?_range' hk]
  simp

/-- Whatever entity is given, by its number or counted from the end, the climb from it to its
enclosing entities is what the links to parents lead to, one after the other, and then comes to an
end. It meets smaller and smaller numbers, its parent first and the root last, and nothing at all
if it starts at the root. It meets just the other entities from which the entity is reached by
going down, each of them once, and they are as many as the entity is deep in the parse tree. -/
theorem ancestors_enclose {i : Int} {k : Nat} (hi : (ofDocument d).resolve? i = some k) :
    let a := ofDocument d
    let up := a.ancestors k
    (∀ n, up[n]? = a.climb? (n + 1) k) ∧
      (k :: up).Pairwise (· > ·) ∧
      up.head? = a.parent? k ∧
      up.getLast? = (if k = 0 then none else some 0) ∧
      (∀ j, (j ∈ up ↔ j ≠ k ∧ a.Reaches j k) ∧ up.count j ≤ 1) ∧
      d.tree.depth? k = some up.length := by
  have hk := resolve?_lt hi
  refine ⟨fun n => getElem?_ancestors n k, pairwise_chain k, head?_ancestors k,
    getLast?_ancestors d hk, fun j => ⟨mem_ancestors_iff d, ?_⟩, depth?_eq d hk⟩
  exact List.nodup_iff_count_le_one.1 (nodup_ancestors k) j

end OfDocument

end Arena

/-- The name of the property is the second last entity of its statement, and the access, the
statement and the program are around it. -/
theorem ancestors_propertyStatement :
    let a := Arena.ofDocument propertyStatement
    a.resolve? (-2) = some 7 ∧ a.ancestors 7 = [2, 1, 0] ∧
      propertyStatement.tree.depth? 7 = some 3 ∧
      ∀ j, j ∈ [2, 1, 0] ↔ j ≠ 7 ∧ a.Reaches j 7 := by
  intro a
  have hi : a.resolve? (-2) = some 7 := by decide
  obtain ⟨hclimb, _, _, _, hmem, hdepth⟩ := Arena.ancestors_enclose propertyStatement hi
  have hup : a.ancestors 7 = [2, 1, 0] := by
    rw [Arena.ancestors_of_parent?_eq_some (p := 2) rfl,
      Arena.ancestors_of_parent?_eq_some (p := 1) rfl,
      Arena.ancestors_of_parent?_eq_some (p := 0) rfl, Arena.ancestors_zero]
  rw [hup] at hdepth
  refine ⟨hi, hup, hdepth, fun j => ?_⟩
  rw [← hup]
  exact (hmem j).1

end SyntaxCursor.Concrete
