import SyntaxCursor.Concrete.Arena

/-!
# Where the nodes of a parse tree stand in its arena

`ParseTree.entities` lists the entities of a tree by recursion on the tree: each node knows its
own number, and those of its children follow from the sizes of the trees before them. The arena
of a document is this list (`entities_ofDocument`), although it collects the children from the
links upwards. `Arena.Holds` says the same of one subtree at one number, in the form that
recursions over a tree take apart, and `Holds.chain_eq` reads off what encloses an entity.
-/
namespace SyntaxCursor.Concrete

@[simp] theorem ParseTree.info_node (info : ParseInfo) (children : List ParseTree) :
    (ParseTree.node info children).info = info := rfl

@[simp] theorem ParseTree.children_node (info : ParseInfo) (children : List ParseTree) :
    (ParseTree.node info children).children = children := rfl

/-- The numbers of the roots of trees that are listed one after another from `next` on. -/
def ParseTree.positions (next : Nat) : List ParseTree → List Nat
  | [] => []
  | t :: ts => next :: positions (next + t.size) ts

/-- The entity of the root of a tree that hangs under `parent` and has the number `k`. -/
def Entity.ofTree (source : List UInt8) (parent : Option Nat) (k : Nat) (t : ParseTree) :
    Entity :=
  let isToken := parent.isSome && t.children.isEmpty
  { t.info with
    index := k
    parent
    children := ParseTree.positions (k + 1) t.children
    isToken
    text := if isToken then slice source t.info.start t.info.stop else [] }

@[simp] theorem Entity.ofTree_index (source : List UInt8) (parent : Option Nat) (k : Nat)
    (t : ParseTree) : (ofTree source parent k t).index = k := rfl

@[simp] theorem Entity.ofTree_parent (source : List UInt8) (parent : Option Nat) (k : Nat)
    (t : ParseTree) : (ofTree source parent k t).parent = parent := rfl

@[simp] theorem Entity.ofTree_info (source : List UInt8) (parent : Option Nat) (k : Nat)
    (t : ParseTree) : (ofTree source parent k t).toParseInfo = t.info := rfl

@[simp] theorem Entity.ofTree_children (source : List UInt8) (parent : Option Nat) (k : Nat)
    (t : ParseTree) :
    (ofTree source parent k t).children = ParseTree.positions (k + 1) t.children := rfl

@[simp] theorem Entity.ofTree_isToken (source : List UInt8) (parent : Option Nat) (k : Nat)
    (t : ParseTree) :
    (ofTree source parent k t).isToken = (parent.isSome && t.children.isEmpty) := rfl

theorem Entity.ofTree_text (source : List UInt8) (parent : Option Nat) (k : Nat)
    (t : ParseTree) : (ofTree source parent k t).text =
      if (ofTree source parent k t).isToken then slice source t.info.start t.info.stop else [] :=
  rfl

namespace ParseTree

@[simp] theorem length_positions (next : Nat) (ts : List ParseTree) :
    (positions next ts).length = ts.length := by
  induction ts generalizing next with
  | nil => rfl
  | cons t ts ih => simp [positions, ih]

mutual

/-- The entities of a tree in pre-order. -/
def entities (source : List UInt8) (parent : Option Nat) (k : Nat) : ParseTree → List Entity
  | .node info children =>
    Entity.ofTree source parent k (.node info children) ::
      entitiesList source k (k + 1) children

/-- The entities of trees that hang under one node. -/
def entitiesList (source : List UInt8) (parent next : Nat) : List ParseTree → List Entity
  | [] => []
  | t :: ts =>
    entities source (some parent) next t ++ entitiesList source parent (next + t.size) ts

end

theorem entities_node (source : List UInt8) (parent : Option Nat) (k : Nat) (info : ParseInfo)
    (children : List ParseTree) : entities source parent k (.node info children) =
      Entity.ofTree source parent k (.node info children) ::
        entitiesList source k (k + 1) children := by
  rw [entities]

@[simp] theorem entitiesList_nil (source : List UInt8) (parent next : Nat) :
    entitiesList source parent next [] = [] := by
  rw [entitiesList]

theorem entitiesList_cons (source : List UInt8) (parent next : Nat) (t : ParseTree)
    (ts : List ParseTree) : entitiesList source parent next (t :: ts) =
      entities source (some parent) next t ++
        entitiesList source parent (next + t.size) ts := by
  rw [entitiesList]

mutual

@[simp] theorem length_entities (source : List UInt8) (parent : Option Nat) (k : Nat)
    (t : ParseTree) : (entities source parent k t).length = t.size := by
  match t with
  | .node info children =>
    rw [entities_node, List.length_cons, length_entitiesList, size_node]

@[simp] theorem length_entitiesList (source : List UInt8) (parent next : Nat)
    (ts : List ParseTree) : (entitiesList source parent next ts).length = sizes ts := by
  match ts with
  | [] => simp
  | t :: ts =>
    rw [entitiesList_cons, List.length_append, length_entities, length_entitiesList, sizes_cons]

end

mutual

theorem index_of_mem_entities {source : List UInt8} {parent : Option Nat} {k : Nat}
    {t : ParseTree} {e : Entity} (he : e ∈ entities source parent k t) :
    k ≤ e.index ∧ e.index < k + t.size := by
  match t with
  | .node info children =>
    rw [entities_node] at he
    rw [size_node]
    rcases List.mem_cons.1 he with rfl | he
    · rw [Entity.ofTree_index]
      omega
    · have := index_of_mem_entitiesList he
      omega

theorem index_of_mem_entitiesList {source : List UInt8} {parent next : Nat}
    {ts : List ParseTree} {e : Entity} (he : e ∈ entitiesList source parent next ts) :
    next ≤ e.index ∧ e.index < next + sizes ts := by
  match ts with
  | [] => simp at he
  | t :: ts =>
    rw [entitiesList_cons] at he
    rw [sizes_cons]
    rcases List.mem_append.1 he with he | he
    · have := index_of_mem_entities he
      omega
    · have := index_of_mem_entitiesList he
      omega

end

end ParseTree

/-- The numbers of the entries that hang under node `p`, if the entries are listed from the
number `next` on. -/
def childrenFrom (next : Nat) (entries : List Entry) (p : Nat) : List Nat :=
  (entries.zipIdx next).filterMap fun (e, i) => if e.parent == some p then some i else none

theorem childrenOf_eq (entries : List Entry) (p : Nat) :
    childrenOf entries p = childrenFrom 0 entries p := rfl

theorem childrenFrom_cons (next : Nat) (e : Entry) (es : List Entry) (p : Nat) :
    childrenFrom next (e :: es) p =
      (if e.parent = some p then [next] else []) ++ childrenFrom (next + 1) es p := by
  by_cases h : e.parent = some p <;> simp [childrenFrom, h]

theorem childrenFrom_append (next : Nat) (xs ys : List Entry) (p : Nat) :
    childrenFrom next (xs ++ ys) p =
      childrenFrom next xs p ++ childrenFrom (next + xs.length) ys p := by
  simp [childrenFrom, List.zipIdx_append]

namespace ParseTree

mutual

/-- A node that is not part of a tree is the parent of its root at most. -/
theorem childrenFrom_entries (parent : Option Nat) (next : Nat) (t : ParseTree) (p : Nat)
    (hp : p < next ∨ next + t.size ≤ p) :
    childrenFrom next (entries parent next t) p = if parent = some p then [next] else [] := by
  match t with
  | .node info children =>
    rw [size_node] at hp
    have hne : ¬next = p := by omega
    rw [entries_node, childrenFrom_cons,
      childrenFrom_entriesList next (next + 1) children p (by omega), if_neg hne,
      List.append_nil]

theorem childrenFrom_entriesList (parent next : Nat) (ts : List ParseTree) (p : Nat)
    (hp : p < next ∨ next + sizes ts ≤ p) :
    childrenFrom next (entriesList parent next ts) p =
      if parent = p then positions next ts else [] := by
  match ts with
  | [] => simp [entriesList_nil, childrenFrom, positions]
  | t :: ts =>
    rw [sizes_cons] at hp
    rw [entriesList_cons, childrenFrom_append, length_entries,
      childrenFrom_entries (some parent) next t p (by omega),
      childrenFrom_entriesList parent (next + t.size) ts p (by omega)]
    by_cases h : parent = p <;> simp [h, positions]

end

mutual

/-- If the nodes of a tree find all their children among its own entries, then its entries
become its entities. -/
theorem map_ofEntry_entries (source : List UInt8) (all : List Entry) {parent : Option Nat}
    {next : Nat} (t : ParseTree) (hparent : ∀ p ∈ parent, p < next)
    (hall : ∀ p, next ≤ p → p < next + t.size →
      childrenOf all p = childrenFrom next (entries parent next t) p) :
    ((entries parent next t).zipIdx next).map
        (fun (e, i) => Entity.ofEntry source (childrenOf all i) e i) =
      entities source parent next t := by
  match t with
  | .node info children =>
    rw [size_node] at hall
    have hne : ∀ p, next ≤ p → ¬parent = some p := by
      intro p hp h
      have := hparent p h
      omega
    simp only [entries_node, childrenFrom_cons] at hall
    have hroot : childrenOf all next = positions (next + 1) children := by
      rw [hall next (by omega) (by omega), if_neg (hne next (by omega)), List.nil_append,
        childrenFrom_entriesList next (next + 1) children next (by omega), if_pos rfl]
    have hrest := map_ofEntry_entriesList source all children (Nat.lt_succ_self next)
      (by
        intro p hp hlt
        rw [hall p (by omega) (by omega), if_neg (hne p (by omega)), List.nil_append])
    rw [entries_node, entities_node, List.zipIdx_cons, List.map_cons, hrest]
    simp [Entity.ofEntry, Entity.ofTree, hroot]

theorem map_ofEntry_entriesList (source : List UInt8) (all : List Entry) {parent next : Nat}
    (ts : List ParseTree) (hparent : parent < next)
    (hall : ∀ p, next ≤ p → p < next + sizes ts →
      childrenOf all p = childrenFrom next (entriesList parent next ts) p) :
    ((entriesList parent next ts).zipIdx next).map
        (fun (e, i) => Entity.ofEntry source (childrenOf all i) e i) =
      entitiesList source parent next ts := by
  match ts with
  | [] => simp [entriesList_nil]
  | t :: ts =>
    rw [sizes_cons] at hall
    simp only [entriesList_cons, childrenFrom_append, length_entries] at hall
    have hsome : ∀ p ∈ some parent, p < next := by simpa using hparent
    have ht := map_ofEntry_entries source all t hsome
      (by
        intro p hp hlt
        have hne : ¬parent = p := by omega
        rw [hall p hp (by omega),
          childrenFrom_entriesList parent (next + t.size) ts p (by omega), if_neg hne,
          List.append_nil])
    have hts := map_ofEntry_entriesList source all ts (by omega : parent < next + t.size)
      (by
        intro p hp hlt
        have hne : ¬some parent = some p := by simp; omega
        rw [hall p (by omega) (by omega),
          childrenFrom_entries (some parent) next t p (by omega), if_neg hne, List.nil_append])
    rw [entriesList_cons, entitiesList_cons, List.zipIdx_append, List.map_append, ht,
      length_entries, hts]

end

end ParseTree

namespace Arena

@[simp] theorem source_ofDocument (d : Document) : (ofDocument d).source = d.source := rfl

/-- The entities of a document are made one by one from its entries. -/
theorem entity?_ofDocument (d : Document) (i : Nat) :
    (ofDocument d).entity? i =
      ((d.tree.entries none 0)[i]?).map fun entry =>
        Entity.ofEntry d.source (childrenOf (d.tree.entries none 0) i) entry i := by
  simp only [entity?, ofDocument, number_eq, Array.getElem?_mapIdx, List.getElem?_toArray]
  cases hentry : (d.tree.entries none 0)[i]? with
  | none => rfl
  | some entry =>
    have hlt := (List.getElem?_eq_some_iff.1 hentry).1
    have hsize : i < (d.tree.entries none 0).toArray.size := by simpa using hlt
    have hlist := getElem?_childLists hsize
    rw [Option.map_some, Option.map_some, Array.getD_eq_getD_getElem?, hlist]
    rfl

/-- The arena of a document lists the entities of its tree in pre-order. -/
theorem entities_ofDocument (d : Document) :
    (ofDocument d).entities.toList = d.tree.entities d.source none 0 := by
  rw [← ParseTree.map_ofEntry_entries d.source (d.tree.entries none 0) d.tree (by simp)
    fun p _ _ => childrenOf_eq _ p]
  refine List.ext_getElem? fun i => ?_
  rw [Array.getElem?_toList, ← entity?, entity?_ofDocument, List.getElem?_map,
    List.getElem?_zipIdx, Option.map_map, Nat.zero_add]
  rfl

mutual

/-- The arena holds a tree whose root hangs under `parent` and has the number `k`. -/
def Holds (a : Arena) (parent : Option Nat) (k : Nat) : ParseTree → Prop
  | .node info children =>
    a.entity? k = some (Entity.ofTree a.source parent k (.node info children)) ∧
      a.HoldsList k (k + 1) children

/-- The arena holds trees that hang under one node, numbered from `next` on. -/
def HoldsList (a : Arena) (parent next : Nat) : List ParseTree → Prop
  | [] => True
  | t :: ts => a.Holds (some parent) next t ∧ a.HoldsList parent (next + t.size) ts

end

section Holds

variable {a : Arena}

theorem holds_node {parent : Option Nat} {k : Nat} {info : ParseInfo}
    {children : List ParseTree} : a.Holds parent k (.node info children) ↔
      a.entity? k = some (Entity.ofTree a.source parent k (.node info children)) ∧
        a.HoldsList k (k + 1) children := by
  rw [Holds]

theorem holdsList_cons {parent next : Nat} {t : ParseTree} {ts : List ParseTree} :
    a.HoldsList parent next (t :: ts) ↔
      a.Holds (some parent) next t ∧ a.HoldsList parent (next + t.size) ts := by
  rw [HoldsList]

mutual

/-- What an arena lists in one piece, it holds. -/
theorem holds_of_entities {parent : Option Nat} {t : ParseTree} (before after : List Entity)
    (h : a.entities.toList =
      before ++ t.entities a.source parent before.length ++ after) :
    a.Holds parent before.length t := by
  match t with
  | .node info children =>
    rw [ParseTree.entities_node] at h
    refine holds_node.2 ⟨?_, ?_⟩
    · rw [entity?, ← Array.getElem?_toList, h]
      simp
    · have hlist : a.HoldsList before.length
          (before ++ [Entity.ofTree a.source parent before.length (.node info children)]).length
          children :=
        holdsList_of_entities _ after (by simpa using h)
      simpa using hlist

theorem holdsList_of_entities {parent : Nat} {ts : List ParseTree} (before after : List Entity)
    (h : a.entities.toList =
      before ++ ParseTree.entitiesList a.source parent before.length ts ++ after) :
    a.HoldsList parent before.length ts := by
  match ts with
  | [] => simp [HoldsList]
  | t :: ts =>
    rw [ParseTree.entitiesList_cons] at h
    refine holdsList_cons.2 ⟨?_, ?_⟩
    · exact holds_of_entities before
        (ParseTree.entitiesList a.source parent (before.length + t.size) ts ++ after)
        (by simpa using h)
    · have hlist : a.HoldsList parent
          (before ++ t.entities a.source (some parent) before.length).length ts :=
        holdsList_of_entities _ after (by simpa using h)
      simpa using hlist

end

/-- The arena of a document holds its tree. -/
theorem holds_ofDocument (d : Document) : (ofDocument d).Holds none 0 d.tree := by
  have h := entities_ofDocument d
  exact holds_of_entities [] [] (by simpa using h)

theorem Holds.entity?_eq {parent : Option Nat} {k : Nat} {t : ParseTree}
    (h : a.Holds parent k t) : a.entity? k = some (Entity.ofTree a.source parent k t) := by
  cases t with
  | node info children => exact (holds_node.1 h).1

theorem Holds.children {parent : Option Nat} {k : Nat} {t : ParseTree}
    (h : a.Holds parent k t) : a.HoldsList k (k + 1) t.children := by
  cases t with
  | node info children => exact (holds_node.1 h).2

theorem Holds.parent?_eq {parent : Option Nat} {k : Nat} {t : ParseTree}
    (h : a.Holds parent k t) : a.parent? k = parent := by
  simp [parent?, h.entity?_eq]

mutual

/-- Every number that a held tree covers is that of a subtree, which ends inside the tree. -/
theorem Holds.exists_subtree {parent : Option Nat} {k : Nat} {t : ParseTree}
    (h : a.Holds parent k t) {i : Nat} (hk : k ≤ i) (hi : i < k + t.size) :
    ∃ p s, a.Holds p i s ∧ i + s.size ≤ k + t.size := by
  match t with
  | .node info children =>
    by_cases hik : i = k
    · subst hik
      exact ⟨parent, _, h, Nat.le_refl _⟩
    · rw [ParseTree.size_node] at hi ⊢
      obtain ⟨p, s, hs, hle⟩ := (holds_node.1 h).2.exists_subtree (i := i) (by omega) (by omega)
      exact ⟨p, s, hs, by omega⟩

theorem HoldsList.exists_subtree {parent next : Nat} {ts : List ParseTree}
    (h : a.HoldsList parent next ts) {i : Nat} (hn : next ≤ i)
    (hi : i < next + ParseTree.sizes ts) :
    ∃ p s, a.Holds p i s ∧ i + s.size ≤ next + ParseTree.sizes ts := by
  match ts with
  | [] => simp at hi; omega
  | t :: ts =>
    obtain ⟨ht, hts⟩ := holdsList_cons.1 h
    rw [ParseTree.sizes_cons] at hi ⊢
    by_cases hit : i < next + t.size
    · obtain ⟨p, s, hs, hle⟩ := ht.exists_subtree hn hit
      exact ⟨p, s, hs, by omega⟩
    · obtain ⟨p, s, hs, hle⟩ := hts.exists_subtree (i := i) (by omega) (by omega)
      exact ⟨p, s, hs, by omega⟩

end

end Holds

/-- Every number of a document's arena is that of a subtree. -/
theorem exists_holds (d : Document) {i : Nat} (hi : i < (ofDocument d).size) :
    ∃ p s, (ofDocument d).Holds p i s ∧ i + s.size ≤ (ofDocument d).size := by
  rw [size_ofDocument] at hi ⊢
  obtain ⟨p, s, hs, hle⟩ := (holds_ofDocument d).exists_subtree (i := i) (by omega) (by omega)
  exact ⟨p, s, hs, by omega⟩

end Arena

namespace ParseTree

mutual

/-- The way from number `i` up to the root of a tree that has the number `k`. -/
def pathTo (i k : Nat) : ParseTree → List Nat
  | .node _ children => if i = k then [k] else pathToList i (k + 1) children ++ [k]

/-- The way from number `i` up to the root of the tree that it belongs to. -/
def pathToList (i next : Nat) : List ParseTree → List Nat
  | [] => []
  | t :: ts => if i < next + t.size then pathTo i next t else pathToList i (next + t.size) ts

end

theorem pathTo_node (i k : Nat) (info : ParseInfo) (children : List ParseTree) :
    pathTo i k (.node info children) =
      if i = k then [k] else pathToList i (k + 1) children ++ [k] := by
  rw [pathTo]

@[simp] theorem pathToList_nil (i next : Nat) : pathToList i next [] = [] := by
  rw [pathToList]

theorem pathToList_cons (i next : Nat) (t : ParseTree) (ts : List ParseTree) :
    pathToList i next (t :: ts) =
      if i < next + t.size then pathTo i next t else pathToList i (next + t.size) ts := by
  rw [pathToList]

theorem root_mem_pathTo (i k : Nat) (t : ParseTree) : k ∈ pathTo i k t := by
  cases t with
  | node info children =>
    rw [pathTo_node]
    by_cases hik : i = k <;> simp [hik]

mutual

/-- The way up stays inside the tree. -/
theorem mem_pathTo {i k : Nat} {t : ParseTree} {j : Nat} (h : j ∈ pathTo i k t) :
    k ≤ j ∧ j < k + t.size := by
  match t with
  | .node info children =>
    rw [pathTo_node] at h
    rw [size_node]
    by_cases hik : i = k
    · rw [if_pos hik, List.mem_singleton] at h
      omega
    · rw [if_neg hik, List.mem_append, List.mem_singleton] at h
      rcases h with h | h
      · have := mem_pathToList h
        omega
      · omega

theorem mem_pathToList {i next : Nat} {ts : List ParseTree} {j : Nat}
    (h : j ∈ pathToList i next ts) : next ≤ j ∧ j < next + sizes ts := by
  match ts with
  | [] => simp at h
  | t :: ts =>
    rw [pathToList_cons] at h
    rw [sizes_cons]
    by_cases hit : i < next + t.size
    · rw [if_pos hit] at h
      have := mem_pathTo h
      omega
    · rw [if_neg hit] at h
      have := mem_pathToList h
      omega

end

end ParseTree

namespace Arena

/-- An entity and those that enclose it, the innermost first. -/
def chain (a : Arena) (i : Nat) : List Nat := i :: a.ancestors i

section Chain

variable {a : Arena}

theorem lt_of_mem_ancestors {i j : Nat} (h : j ∈ a.ancestors i) : j < i := by
  induction i using Nat.strongRecOn with
  | ind i ih =>
    cases hp : a.parent? i with
    | none => simp [ancestors_of_parent?_eq_none hp] at h
    | some p =>
      have hlt := parent?_lt hp
      rw [ancestors_of_parent?_eq_some hp] at h
      rcases List.mem_cons.1 h with rfl | h
      · exact hlt
      · exact Nat.lt_trans (ih p hlt h) hlt

mutual

/-- Inside a held tree the enclosing entities lie on the way up to its root, and beyond it they
are those of the root. -/
theorem Holds.chain_eq {parent : Option Nat} {k : Nat} {t : ParseTree}
    (h : a.Holds parent k t) {i : Nat} (hk : k ≤ i) (hi : i < k + t.size) :
    a.chain i = t.pathTo i k ++ a.ancestors k := by
  match t with
  | .node info children =>
    rw [ParseTree.pathTo_node]
    by_cases hik : i = k
    · rw [if_pos hik, hik, chain, List.singleton_append]
    · rw [ParseTree.size_node] at hi
      have hlist := (holds_node.1 h).2.chain_eq (i := i) (by omega) (by omega)
      rw [if_neg hik, hlist, chain, List.append_assoc, List.singleton_append]

theorem HoldsList.chain_eq {parent next : Nat} {ts : List ParseTree}
    (h : a.HoldsList parent next ts) {i : Nat} (hn : next ≤ i)
    (hi : i < next + ParseTree.sizes ts) :
    a.chain i = ParseTree.pathToList i next ts ++ a.chain parent := by
  match ts with
  | [] => simp at hi; omega
  | t :: ts =>
    obtain ⟨ht, hts⟩ := holdsList_cons.1 h
    rw [ParseTree.sizes_cons] at hi
    rw [ParseTree.pathToList_cons]
    by_cases hit : i < next + t.size
    · rw [if_pos hit, ht.chain_eq hn hit, ancestors_of_parent?_eq_some ht.parent?_eq, chain]
    · rw [if_neg hit, hts.chain_eq (by omega) (by omega)]

end

mutual

/-- On the way up to the root of a held tree lie the roots of subtrees that `i` belongs to. -/
theorem Holds.exists_of_mem_pathTo {parent : Option Nat} {k : Nat} {t : ParseTree}
    (h : a.Holds parent k t) {i : Nat} (hk : k ≤ i) (hi : i < k + t.size) {j : Nat}
    (hj : j ∈ t.pathTo i k) : ∃ p s, a.Holds p j s ∧ j ≤ i ∧ i < j + s.size := by
  match t with
  | .node info children =>
    rw [ParseTree.pathTo_node] at hj
    by_cases hik : i = k
    · rw [if_pos hik, List.mem_singleton] at hj
      subst hj
      exact ⟨parent, _, h, hk, hi⟩
    · rw [if_neg hik, List.mem_append, List.mem_singleton] at hj
      rcases hj with hj | hj
      · rw [ParseTree.size_node] at hi
        exact (holds_node.1 h).2.exists_of_mem_pathToList (by omega) (by omega) hj
      · subst hj
        exact ⟨parent, _, h, hk, hi⟩

theorem HoldsList.exists_of_mem_pathToList {parent next : Nat} {ts : List ParseTree}
    (h : a.HoldsList parent next ts) {i : Nat} (hn : next ≤ i)
    (hi : i < next + ParseTree.sizes ts) {j : Nat}
    (hj : j ∈ ParseTree.pathToList i next ts) :
    ∃ p s, a.Holds p j s ∧ j ≤ i ∧ i < j + s.size := by
  match ts with
  | [] => simp at hj
  | t :: ts =>
    obtain ⟨ht, hts⟩ := holdsList_cons.1 h
    rw [ParseTree.sizes_cons] at hi
    rw [ParseTree.pathToList_cons] at hj
    by_cases hit : i < next + t.size
    · rw [if_pos hit] at hj
      exact ht.exists_of_mem_pathTo hn hit hj
    · rw [if_neg hit] at hj
      exact hts.exists_of_mem_pathToList (by omega) (by omega) hj

end

/-- The root of a held tree encloses all other entities of the tree. -/
theorem Holds.mem_ancestors {parent : Option Nat} {k : Nat} {t : ParseTree}
    (h : a.Holds parent k t) {i : Nat} (hk : k < i) (hi : i < k + t.size) :
    k ∈ a.ancestors i := by
  have hchain := h.chain_eq (Nat.le_of_lt hk) hi
  have hmem : k ∈ a.chain i := by simp [hchain, ParseTree.root_mem_pathTo]
  rcases List.mem_cons.1 hmem with hki | hki
  · omega
  · exact hki

end Chain

section OfDocument

variable (d : Document)

theorem root_ofDocument : (ofDocument d).root = Entity.ofTree d.source none 0 d.tree := by
  have he := (holds_ofDocument d).entity?_eq
  rw [entity?, Array.getElem?_eq_some_iff] at he
  exact he.2

theorem ancestors_zero : (ofDocument d).ancestors 0 = [] :=
  ancestors_of_parent?_eq_none (holds_ofDocument d).parent?_eq

theorem chain_ofDocument {i : Nat} (hi : i < (ofDocument d).size) :
    (ofDocument d).chain i = d.tree.pathTo i 0 := by
  rw [size_ofDocument] at hi
  rw [(holds_ofDocument d).chain_eq (by omega) (by omega), ancestors_zero, List.append_nil]

/-- What encloses an entity is the root of a subtree that the entity belongs to. -/
theorem exists_of_mem_ancestors {i j : Nat} (hi : i < (ofDocument d).size)
    (hj : j ∈ (ofDocument d).ancestors i) :
    ∃ p s, (ofDocument d).Holds p j s ∧ j ≤ i ∧ i < j + s.size := by
  have hmem : j ∈ d.tree.pathTo i 0 := by
    rw [← chain_ofDocument d hi, chain]
    exact List.mem_cons_of_mem i hj
  rw [size_ofDocument] at hi
  exact (holds_ofDocument d).exists_of_mem_pathTo (by omega) (by omega) hmem

theorem exists_entity? {i : Nat} (hi : i < (ofDocument d).size) :
    ∃ e, (ofDocument d).entity? i = some e := by
  obtain ⟨p, s, hs, _⟩ := exists_holds d hi
  exact ⟨_, hs.entity?_eq⟩

theorem lt_size_of_entity? {a : Arena} {i : Nat} {e : Entity} (he : a.entity? i = some e) :
    i < a.size := by
  rw [entity?, Array.getElem?_eq_some_iff] at he
  exact he.1

/-- Every entity of a document's arena is the root of a subtree. -/
theorem exists_eq_ofTree {i : Nat} {e : Entity} (he : (ofDocument d).entity? i = some e) :
    ∃ p s, (ofDocument d).Holds p i s ∧ e = Entity.ofTree d.source p i s := by
  obtain ⟨p, s, hs, _⟩ := exists_holds d (lt_size_of_entity? he)
  exact ⟨p, s, hs, Option.some.inj (he.symm.trans hs.entity?_eq)⟩

theorem index_of_entity? {i : Nat} {e : Entity} (he : (ofDocument d).entity? i = some e) :
    e.index = i := by
  obtain ⟨p, s, _, rfl⟩ := exists_eq_ofTree d he
  rfl

theorem entity?_of_mem {e : Entity} (he : e ∈ (ofDocument d).entities.toList) :
    (ofDocument d).entity? e.index = some e := by
  obtain ⟨i, hi⟩ := List.getElem?_of_mem he
  have hi : (ofDocument d).entity? i = some e := by rw [entity?, ← Array.getElem?_toList, hi]
  rw [index_of_entity? d hi, hi]

theorem mem_entities_of_entity? {a : Arena} {i : Nat} {e : Entity} (he : a.entity? i = some e) :
    e ∈ a.entities.toList := by
  rw [entity?, ← Array.getElem?_toList] at he
  exact List.mem_of_getElem? he

/-- The entities of a document stand in the order of their numbers. -/
theorem pairwise_index :
    (ofDocument d).entities.toList.Pairwise fun e e' => e.index < e'.index := by
  rw [List.pairwise_iff_getElem]
  intro i j hi hj hij
  have hindex (i : Nat) (hi : i < (ofDocument d).entities.toList.length) :
      (ofDocument d).entities.toList[i].index = i :=
    index_of_entity? d (by rw [entity?, ← Array.getElem?_toList, List.getElem?_eq_getElem hi])
  rw [hindex i hi, hindex j hj]
  exact hij

/-- No token encloses anything. -/
theorem isToken_eq_false_of_mem_ancestors {i j : Nat} (hi : i < (ofDocument d).size)
    (hj : j ∈ (ofDocument d).ancestors i) {e : Entity}
    (he : (ofDocument d).entity? j = some e) : e.isToken = false := by
  have hij := lt_of_mem_ancestors hj
  obtain ⟨p, s, hs, _, hlt⟩ := exists_of_mem_ancestors d hi hj
  obtain rfl : e = Entity.ofTree d.source p j s :=
    Option.some.inj (he.symm.trans hs.entity?_eq)
  cases s with
  | node info children =>
    cases children with
    | nil => simp at hlt; omega
    | cons t ts => simp

end OfDocument

end Arena

end SyntaxCursor.Concrete
