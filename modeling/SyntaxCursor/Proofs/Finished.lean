import SyntaxCursor.Proofs.Bearer

/-!
# Which entities the walk finishes

The walk finishes an entity after all that it has entered below it, and enters nothing below a
missing one. So `treeFinished`, a recursion on the parse tree, lists what is finished in order,
and an entity of a document is finished exactly if it is not below a missing one
(`mem_finished`).
-/
namespace SyntaxCursor.Concrete

theorem ParseTree.size_eq (t : ParseTree) : t.size = sizes t.children + 1 := by
  cases t with
  | node info children => rw [size_node, children_node]

end SyntaxCursor.Concrete

namespace SyntaxCursor.Conversion

open Abstract Concrete

mutual

/-- The numbers of the entities of a tree in the order in which the walk finishes them. -/
def treeFinished (k : Nat) : ParseTree → List Nat
  | .node info children =>
    (if info.isMissing then [] else forestFinished (k + 1) children) ++ [k]

/-- The numbers of the entities of trees in the order in which the walk finishes them. -/
def forestFinished (next : Nat) : List ParseTree → List Nat
  | [] => []
  | t :: ts => treeFinished next t ++ forestFinished (next + t.size) ts

end

theorem treeFinished_of_isMissing {info : ParseInfo} (h : info.isMissing = true) (k : Nat)
    (children : List ParseTree) : treeFinished k (.node info children) = [k] := by
  rw [treeFinished, if_pos h, List.nil_append]

theorem treeFinished_of_not_isMissing {info : ParseInfo} (h : info.isMissing = false) (k : Nat)
    (children : List ParseTree) :
    treeFinished k (.node info children) = forestFinished (k + 1) children ++ [k] := by
  rw [treeFinished, if_neg (by simp [h])]

@[simp] theorem forestFinished_nil (next : Nat) : forestFinished next [] = [] := by
  rw [forestFinished]

theorem forestFinished_cons (next : Nat) (t : ParseTree) (ts : List ParseTree) :
    forestFinished next (t :: ts) = treeFinished next t ++ forestFinished (next + t.size) ts := by
  rw [forestFinished]

section Count

variable (source : List UInt8) (version : Int)

mutual

/-- The numbers that are noted while a tree is converted. -/
theorem map_fst_treeItems_count (parent : Option Nat) (k : Nat) (t : ParseTree)
    (s : List (Nat × Nat)) :
    (treeItems source version count parent k t s).2.map Prod.fst =
      s.map Prod.fst ++ treeFinished k t := by
  match t with
  | .node info children =>
    cases hm : info.isMissing with
    | true =>
      rw [treeItems_of_isMissing hm, treeFinished_of_isMissing hm, count, List.map_append]
      rfl
    | false =>
      rw [treeFinished_of_not_isMissing hm]
      cases ht : parent.isSome && children.isEmpty && !info.isError with
      | true =>
        have hleaf := isLeaf_of_isToken ht
        rw [treeItems_of_isToken hm ht, hleaf.1, forestFinished_nil, count, List.map_append]
        rfl
      | false =>
        rw [treeItems_of_isNode hm ht, count, List.map_append, map_fst_forestItems_count,
          List.append_assoc]
        rfl

theorem map_fst_forestItems_count (parent next : Nat) (ts : List ParseTree)
    (s : List (Nat × Nat)) :
    (forestItems source version count parent next ts s).2.map Prod.fst =
      s.map Prod.fst ++ forestFinished next ts := by
  match ts with
  | [] => rw [forestItems_nil, forestFinished_nil, List.append_nil]
  | t :: ts =>
    rw [forestItems_cons, map_fst_forestItems_count, map_fst_treeItems_count,
      forestFinished_cons, List.append_assoc]

end

end Count

section Holds

variable {a : Arena}

/-- The children of an entity that is neither missing nor cut off are not cut off. -/
theorem isCut_of_child {k c : Nat} {e : Entity} (he : a.entity? k = some e)
    (hm : e.isMissing = false) (hcut : isCut a k = false) (hc : a.parent? c = some k) :
    isCut a c = false := by
  rw [isCut_of_parent? hc he, hcut, hm, Bool.or_false]

/-- All that lies below a missing entity is cut off. -/
theorem isCut_of_isMissing {parent : Option Nat} {k : Nat} {t : ParseTree}
    (h : a.Holds parent k t) (hm : t.info.isMissing = true) {i : Nat} (hk : k < i)
    (hi : i < k + t.size) : isCut a i = true :=
  isCut_of_mem_ancestors (h.mem_ancestors hk hi) h.entity?_eq hm

theorem isCut_of_mem_entitiesList {parent : Option Nat} {k : Nat} {t : ParseTree}
    (h : a.Holds parent k t) (hm : t.info.isMissing = true) {e : Entity}
    (he : e ∈ ParseTree.entitiesList a.source k (k + 1) t.children) :
    isCut a e.index = true := by
  have hrange := ParseTree.index_of_mem_entitiesList he
  have hsize := t.size_eq
  exact isCut_of_isMissing h hm (by omega) (by omega)

mutual

/-- Of a held tree that is not cut off itself, all is finished but what is cut off. -/
theorem mem_treeFinished {parent : Option Nat} {k : Nat} {t : ParseTree}
    (h : a.Holds parent k t) (hcut : isCut a k = false) {i : Nat} :
    i ∈ treeFinished k t ↔ (k ≤ i ∧ i < k + t.size) ∧ isCut a i = false := by
  match t with
  | .node info children =>
    obtain ⟨he, hchildren⟩ := Arena.holds_node.1 h
    rw [ParseTree.size_node]
    cases hm : info.isMissing with
    | true =>
      rw [treeFinished_of_isMissing hm, List.mem_singleton]
      constructor
      · rintro rfl
        exact ⟨by omega, hcut⟩
      · rintro ⟨hrange, hopen⟩
        by_contra hne
        rw [isCut_of_isMissing h hm (by omega) (by rw [ParseTree.size_node]; omega)] at hopen
        contradiction
    | false =>
      have hbelow : ∀ c, a.parent? c = some k → isCut a c = false :=
        fun c hc => isCut_of_child he hm hcut hc
      rw [treeFinished_of_not_isMissing hm, List.mem_append, List.mem_singleton,
        mem_forestFinished hchildren hbelow]
      constructor
      · rintro (⟨hrange, hopen⟩ | rfl)
        · exact ⟨by omega, hopen⟩
        · exact ⟨by omega, hcut⟩
      · rintro ⟨hrange, hopen⟩
        by_cases hik : i = k
        · exact Or.inr hik
        · exact Or.inl ⟨by omega, hopen⟩

theorem mem_forestFinished {parent next : Nat} {ts : List ParseTree}
    (h : a.HoldsList parent next ts)
    (hcut : ∀ c, a.parent? c = some parent → isCut a c = false) {i : Nat} :
    i ∈ forestFinished next ts ↔
      (next ≤ i ∧ i < next + ParseTree.sizes ts) ∧ isCut a i = false := by
  match ts with
  | [] =>
    rw [forestFinished_nil, ParseTree.sizes_nil]
    constructor
    · intro hmem
      contradiction
    · rintro ⟨hrange, _⟩
      omega
  | t :: ts =>
    obtain ⟨ht, hts⟩ := Arena.holdsList_cons.1 h
    have hfirst := mem_treeFinished (i := i) ht (hcut next ht.parent?_eq)
    have hrest := mem_forestFinished (i := i) hts hcut
    rw [forestFinished_cons, List.mem_append, hfirst, hrest, ParseTree.sizes_cons,
      ← or_and_right]
    refine and_congr_left fun _ => ?_
    omega

end

end Holds

/-- The numbers of the entities that the walk over an arena finishes, in order. -/
def finished (a : Arena) (version : Int) : List Nat :=
  ((build? a version count []).map fun b => b.state.map Prod.fst).getD []

theorem finished_ofDocument (d : Document) (version : Int) :
    finished (Arena.ofDocument d) version = treeFinished 0 d.tree := by
  rw [finished, build?_ofDocument, Option.map_some, Option.getD_some, map_fst_treeItems_count,
    List.map_nil, List.nil_append]

/-- The walk finishes every entity that is not below a missing one, and no other. -/
theorem mem_finished {d : Document} {version : Int} {i : Nat} :
    i ∈ finished (Arena.ofDocument d) version ↔
      i < (Arena.ofDocument d).size ∧ isCut (Arena.ofDocument d) i = false := by
  rw [finished_ofDocument, mem_treeFinished (Arena.holds_ofDocument d) (isCut_zero d),
    Arena.size_ofDocument]
  refine and_congr_left fun _ => ?_
  omega

end SyntaxCursor.Conversion
