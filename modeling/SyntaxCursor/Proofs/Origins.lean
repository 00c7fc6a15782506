import SyntaxCursor.Proofs.Overlay

/-!
# Which entity a node is made for

The rules make a node for some of the entities that are finished, and no other nodes come out of
them. `Origin` puts a node together with the entity it is made for and with its owner, the nearest
entity around for which a node is made as well. The origins of a tree are collected by recursion
on it. They list the nodes of its items in document order (`map_node_treeOrigins`), and the nodes
that an entity owns are the child nodes of its own node (`ownedBy_index_treeOrigins`).
-/
namespace SyntaxCursor.Abstract

/-- The nodes of items are the nodes among them, each with what is below it. -/
theorem Item.nodesList_eq_flatMap (is : List Item) :
    nodesList is = (is.filterMap node?).flatMap fun n => n :: nodesList n.children := by
  induction is with
  | nil => simp
  | cons i is ih =>
    cases i with
    | scalar value => rw [nodesList_cons, nodes_scalar, List.nil_append, ih]; rfl
    | node info children => rw [nodesList_cons, nodes_node, ih]; rfl

/-- A node has the line and the span of a parsed node. -/
structure NodeInfo.HasExtent (node : NodeInfo) (info : Concrete.ParseInfo) : Prop where
  line_eq : node.line = info.row + 1
  start_eq : node.start = info.start
  stop_eq : node.stop = info.stop

end SyntaxCursor.Abstract

namespace SyntaxCursor.Conversion

open Abstract Concrete

/-- Whether the rules make a node for a finished entity with these items below it. -/
def makesNode (e : Entity) (below : List Item) : Bool :=
  if e.isMissing then false
  else if e.isToken && !e.isError then
    e.isNamed && !isDropped e.kind && (scalarOf? e.kind).isNone
  else
    e.isError || (!isTransparent e.kind && !(isString e.kind && (joinTexts? below).isSome))

/-- The node that the rules make for an entity. -/
def ownNode (version : Int) (e : Entity) (below : List Item) : Node :=
  makeNode (if e.isError then "ERROR" else kindName version e.kind) e.toParseInfo below

theorem hasExtent_makeNode (kind : String) (info : ParseInfo) (below : List Item) :
    (makeNode kind info below).info.HasExtent info := ⟨rfl, rfl, rfl⟩

/-- There is no node among texts. -/
theorem filterMap_node?_of_joinTexts? {is : List Item} {s : String}
    (h : joinTexts? is = some s) : is.filterMap Item.node? = [] := by
  induction is generalizing s with
  | nil => rfl
  | cons i is ih =>
    cases i with
    | scalar value =>
      cases value with
      | text s' =>
        rw [joinTexts?, Option.map_eq_some_iff] at h
        obtain ⟨rest, hrest, _⟩ := h
        exact ih hrest
      | null => simp [joinTexts?] at h
      | int n => simp [joinTexts?] at h
      | float x => simp [joinTexts?] at h
    | node info children => simp [joinTexts?] at h

section Rules

variable {source : List UInt8} {version : Int} {parent : Option Nat} {k : Nat}
  {info : ParseInfo} {children : List ParseTree}

theorem isMissing_of_makesNode {e : Entity} {below : List Item} (h : makesNode e below = true) :
    e.isMissing = false := by
  cases hm : e.isMissing with
  | true => simp [makesNode, hm] at h
  | false => rfl

theorem makesNode_of_isToken (hm : info.isMissing = false)
    (ht : (parent.isSome && children.isEmpty && !info.isError) = true) (below : List Item) :
    makesNode (Entity.ofTree source parent k (.node info children)) below =
      (info.isNamed && !isDropped info.kind && (scalarOf? info.kind).isNone) := by
  rw [makesNode, if_neg (by simp [hm])]
  exact if_pos ht

theorem makesNode_of_isNode (hm : info.isMissing = false)
    (ht : (parent.isSome && children.isEmpty && !info.isError) = false) (below : List Item) :
    makesNode (Entity.ofTree source parent k (.node info children)) below =
      (info.isError || (!isTransparent info.kind &&
        !(isString info.kind && (joinTexts? below).isSome))) := by
  rw [makesNode, if_neg (by simp [hm])]
  exact if_neg (by simpa using ht)

theorem plainItems_of_makesNode
    (h : makesNode (Entity.ofTree source parent k (.node info children))
      (plainForest source version k (k + 1) children) = true) :
    plainItems source version parent k (.node info children) =
      [(ownNode version (Entity.ofTree source parent k (.node info children))
        (plainForest source version k (k + 1) children)).toItem] := by
  have hm : info.isMissing = false := isMissing_of_makesNode h
  rw [ownNode, Entity.ofTree_info, ParseTree.info_node]
  cases ht : parent.isSome && children.isEmpty && !info.isError with
  | true =>
    have hleaf := isLeaf_of_isToken ht
    rw [makesNode_of_isToken hm ht, Bool.and_eq_true, Bool.and_eq_true,
      Option.isNone_iff_eq_none] at h
    obtain ⟨⟨hnamed, hdropped⟩, hscalar⟩ := h
    rw [plainItems_of_isToken hm ht, tokenItems,
      if_neg (by simpa [hnamed] using hdropped), hscalar, hleaf.1, plainForest_nil, hleaf.2]
    rfl
  | false =>
    rw [makesNode_of_isNode hm ht] at h
    rw [plainItems_of_isNode hm ht, nodeItems]
    cases herror : info.isError with
    | true => rfl
    | false =>
      rw [herror, Bool.false_or, Bool.and_eq_true, Bool.not_eq_true'] at h
      obtain ⟨htransparent, hfold⟩ := h
      cases hstring : isString info.kind with
      | false => simp [htransparent]
      | true =>
        have hnone : joinTexts? (plainForest source version k (k + 1) children) = none := by
          simpa [hstring] using hfold
        simp [htransparent, hnone]

/-- An entity for which no node is made passes on the nodes below it. -/
theorem filterMap_node?_plainItems (hm : info.isMissing = false)
    (h : makesNode (Entity.ofTree source parent k (.node info children))
      (plainForest source version k (k + 1) children) = false) :
    (plainItems source version parent k (.node info children)).filterMap Item.node? =
      (plainForest source version k (k + 1) children).filterMap Item.node? := by
  cases ht : parent.isSome && children.isEmpty && !info.isError with
  | true =>
    have hleaf := isLeaf_of_isToken ht
    rw [makesNode_of_isToken hm ht] at h
    rw [plainItems_of_isToken hm ht, tokenItems, hleaf.1, plainForest_nil]
    by_cases hdropped : (!info.isNamed || isDropped info.kind) = true
    · rw [if_pos hdropped]
    · rw [if_neg hdropped]
      cases hscalar : scalarOf? info.kind with
      | none => simp_all
      | some scalar => rfl
  | false =>
    rw [makesNode_of_isNode hm ht, Bool.or_eq_false_iff] at h
    obtain ⟨herror, hpasses⟩ := h
    rw [plainItems_of_isNode hm ht, nodeItems, if_neg (by simp [herror])]
    cases htransparent : isTransparent info.kind with
    | true => simp
    | false =>
      obtain ⟨hstring, hfold⟩ : isString info.kind = true ∧
          (joinTexts? (plainForest source version k (k + 1) children)).isSome = true := by
        simpa [htransparent] using hpasses
      obtain ⟨s, hs⟩ := Option.isSome_iff_exists.1 hfold
      simp only [hstring, hs, Bool.false_eq_true, ↓reduceIte]
      rw [filterMap_node?_of_joinTexts? hs]
      rfl

end Rules

/-- A node, the entity it is made for, and the number of the owner, if there is one. -/
structure Origin where
  entity : Entity
  owner : Option Nat
  node : Node

section Recursion

variable (source : List UInt8) (version : Int)

mutual

/-- The origins of the nodes that a tree becomes, if `owner` is the owner outside of it. -/
def treeOrigins (owner parent : Option Nat) (k : Nat) : ParseTree → List Origin
  | .node info children =>
    let e := Entity.ofTree source parent k (.node info children)
    let below := plainForest source version k (k + 1) children
    if info.isMissing then []
    else if makesNode e below then
      ⟨e, owner, ownNode version e below⟩ :: forestOrigins (some k) k (k + 1) children
    else forestOrigins owner k (k + 1) children

/-- The origins of the nodes that trees become. -/
def forestOrigins (owner : Option Nat) (parent next : Nat) : List ParseTree → List Origin
  | [] => []
  | t :: ts =>
    treeOrigins owner (some parent) next t ++ forestOrigins owner parent (next + t.size) ts

end

end Recursion

section Equations

variable {source : List UInt8} {version : Int} {owner parent : Option Nat} {k : Nat}
  {info : ParseInfo} {children : List ParseTree}

theorem treeOrigins_of_isMissing (hm : info.isMissing = true) :
    treeOrigins source version owner parent k (.node info children) = [] := by
  rw [treeOrigins]
  exact if_pos hm

theorem treeOrigins_of_makesNode
    (h : makesNode (Entity.ofTree source parent k (.node info children))
      (plainForest source version k (k + 1) children) = true) :
    treeOrigins source version owner parent k (.node info children) =
      ⟨Entity.ofTree source parent k (.node info children), owner,
        ownNode version (Entity.ofTree source parent k (.node info children))
          (plainForest source version k (k + 1) children)⟩ ::
        forestOrigins source version (some k) k (k + 1) children := by
  have hm : info.isMissing = false := isMissing_of_makesNode h
  rw [treeOrigins]
  simp only [hm, Bool.false_eq_true, ↓reduceIte]
  exact if_pos h

theorem treeOrigins_of_not_makesNode (hm : info.isMissing = false)
    (h : makesNode (Entity.ofTree source parent k (.node info children))
      (plainForest source version k (k + 1) children) = false) :
    treeOrigins source version owner parent k (.node info children) =
      forestOrigins source version owner k (k + 1) children := by
  rw [treeOrigins]
  simp only [hm, Bool.false_eq_true, ↓reduceIte]
  exact if_neg (by simp [h])

@[simp] theorem forestOrigins_nil {parent next : Nat} :
    forestOrigins source version owner parent next [] = [] := by
  rw [forestOrigins]

theorem forestOrigins_cons {parent next : Nat} {t : ParseTree} {ts : List ParseTree} :
    forestOrigins source version owner parent next (t :: ts) =
      treeOrigins source version owner (some parent) next t ++
        forestOrigins source version owner parent (next + t.size) ts := by
  rw [forestOrigins]

end Equations

/-- The nodes among origins that have a given owner. -/
def ownedBy (y : Option Nat) (os : List Origin) : List Node :=
  (os.filter fun o => o.owner = y).map (·.node)

@[simp] theorem ownedBy_nil (y : Option Nat) : ownedBy y [] = [] := rfl

theorem ownedBy_cons (y : Option Nat) (o : Origin) (os : List Origin) :
    ownedBy y (o :: os) = (if o.owner = y then [o.node] else []) ++ ownedBy y os := by
  by_cases h : o.owner = y <;> simp [ownedBy, h]

theorem ownedBy_cons_of_ne {y : Option Nat} {o : Origin} (h : o.owner ≠ y) (os : List Origin) :
    ownedBy y (o :: os) = ownedBy y os := by
  rw [ownedBy_cons, if_neg h, List.nil_append]

theorem ownedBy_append (y : Option Nat) (os os' : List Origin) :
    ownedBy y (os ++ os') = ownedBy y os ++ ownedBy y os' := by
  simp [ownedBy]

section Recursive

variable {source : List UInt8} {version : Int}

mutual

/-- The origins list the nodes of the items in document order. -/
theorem map_node_treeOrigins (owner parent : Option Nat) (k : Nat) (t : ParseTree) :
    (treeOrigins source version owner parent k t).map (·.node) =
      Item.nodesList (plainItems source version parent k t) := by
  match t with
  | .node info children =>
    cases hm : info.isMissing with
    | true =>
      rw [treeOrigins_of_isMissing hm, plainItems_of_isMissing hm, Item.nodesList_nil,
        List.map_nil]
    | false =>
      cases h : makesNode (Entity.ofTree source parent k (.node info children))
        (plainForest source version k (k + 1) children) with
      | true =>
        rw [treeOrigins_of_makesNode h, plainItems_of_makesNode h, List.map_cons,
          map_node_forestOrigins, Item.nodesList_cons, Item.nodesList_nil, List.append_nil,
          Node.toItem, Item.nodes_node]
        rfl
      | false =>
        rw [treeOrigins_of_not_makesNode hm h, map_node_forestOrigins,
          Item.nodesList_eq_flatMap, ← filterMap_node?_plainItems hm h,
          ← Item.nodesList_eq_flatMap]

theorem map_node_forestOrigins (owner : Option Nat) (parent next : Nat) (ts : List ParseTree) :
    (forestOrigins source version owner parent next ts).map (·.node) =
      Item.nodesList (plainForest source version parent next ts) := by
  match ts with
  | [] => rw [forestOrigins_nil, plainForest_nil, Item.nodesList_nil, List.map_nil]
  | t :: ts =>
    rw [forestOrigins_cons, plainForest_cons, List.map_append, Item.nodesList_append,
      map_node_treeOrigins, map_node_forestOrigins]

end

mutual

theorem index_of_mem_treeOrigins {owner parent : Option Nat} {k : Nat} {t : ParseTree}
    {o : Origin} (ho : o ∈ treeOrigins source version owner parent k t) :
    k ≤ o.entity.index ∧ o.entity.index < k + t.size := by
  match t with
  | .node info children =>
    rw [ParseTree.size_node]
    cases hm : info.isMissing with
    | true => simp [treeOrigins_of_isMissing hm] at ho
    | false =>
      cases h : makesNode (Entity.ofTree source parent k (.node info children))
        (plainForest source version k (k + 1) children) with
      | true =>
        rw [treeOrigins_of_makesNode h] at ho
        rcases List.mem_cons.1 ho with rfl | ho
        · rw [Entity.ofTree_index]
          omega
        · have hrange := index_of_mem_forestOrigins ho
          omega
      | false =>
        rw [treeOrigins_of_not_makesNode hm h] at ho
        have hrange := index_of_mem_forestOrigins ho
        omega

theorem index_of_mem_forestOrigins {owner : Option Nat} {parent next : Nat}
    {ts : List ParseTree} {o : Origin}
    (ho : o ∈ forestOrigins source version owner parent next ts) :
    next ≤ o.entity.index ∧ o.entity.index < next + ParseTree.sizes ts := by
  match ts with
  | [] => simp at ho
  | t :: ts =>
    rw [forestOrigins_cons] at ho
    rw [ParseTree.sizes_cons]
    rcases List.mem_append.1 ho with ho | ho
    · have hrange := index_of_mem_treeOrigins ho
      omega
    · have hrange := index_of_mem_forestOrigins ho
      omega

end

mutual

theorem hasExtent_of_mem_treeOrigins {owner parent : Option Nat} {k : Nat} {t : ParseTree}
    {o : Origin} (ho : o ∈ treeOrigins source version owner parent k t) :
    o.node.info.HasExtent o.entity.toParseInfo := by
  match t with
  | .node info children =>
    cases hm : info.isMissing with
    | true => simp [treeOrigins_of_isMissing hm] at ho
    | false =>
      cases h : makesNode (Entity.ofTree source parent k (.node info children))
        (plainForest source version k (k + 1) children) with
      | true =>
        rw [treeOrigins_of_makesNode h] at ho
        rcases List.mem_cons.1 ho with rfl | ho
        · exact hasExtent_makeNode _ info _
        · exact hasExtent_of_mem_forestOrigins ho
      | false =>
        rw [treeOrigins_of_not_makesNode hm h] at ho
        exact hasExtent_of_mem_forestOrigins ho

theorem hasExtent_of_mem_forestOrigins {owner : Option Nat} {parent next : Nat}
    {ts : List ParseTree} {o : Origin}
    (ho : o ∈ forestOrigins source version owner parent next ts) :
    o.node.info.HasExtent o.entity.toParseInfo := by
  match ts with
  | [] => simp at ho
  | t :: ts =>
    rw [forestOrigins_cons] at ho
    rcases List.mem_append.1 ho with ho | ho
    · exact hasExtent_of_mem_treeOrigins ho
    · exact hasExtent_of_mem_forestOrigins ho

end

mutual

/-- What an outer owner owns of a tree are the nodes among its items; no other entity from
outside owns anything there. -/
theorem ownedBy_treeOrigins {owner parent y : Option Nat} {k : Nat} {t : ParseTree}
    (hy : ∀ i ∈ y, i < k ∨ k + t.size ≤ i) :
    ownedBy y (treeOrigins source version owner parent k t) =
      if owner = y then (plainItems source version parent k t).filterMap Item.node? else [] := by
  match t with
  | .node info children =>
    rw [ParseTree.size_node] at hy
    have hbelow : ∀ i ∈ y, i < k + 1 ∨ k + 1 + ParseTree.sizes children ≤ i := by
      intro i hi
      have hout := hy i hi
      omega
    cases hm : info.isMissing with
    | true => simp [treeOrigins_of_isMissing hm, plainItems_of_isMissing hm]
    | false =>
      cases h : makesNode (Entity.ofTree source parent k (.node info children))
        (plainForest source version k (k + 1) children) with
      | true =>
        have hne : ¬some k = y := by
          intro hk
          have hout := hy k (by rw [← hk]; rfl)
          omega
        rw [treeOrigins_of_makesNode h, plainItems_of_makesNode h, ownedBy_cons,
          ownedBy_forestOrigins hbelow, if_neg hne, List.append_nil]
        rfl
      | false =>
        rw [treeOrigins_of_not_makesNode hm h, filterMap_node?_plainItems hm h,
          ownedBy_forestOrigins hbelow]

theorem ownedBy_forestOrigins {owner y : Option Nat} {parent next : Nat} {ts : List ParseTree}
    (hy : ∀ i ∈ y, i < next ∨ next + ParseTree.sizes ts ≤ i) :
    ownedBy y (forestOrigins source version owner parent next ts) =
      if owner = y then (plainForest source version parent next ts).filterMap Item.node?
      else [] := by
  match ts with
  | [] => simp
  | t :: ts =>
    rw [ParseTree.sizes_cons] at hy
    have hfirst : ∀ i ∈ y, i < next ∨ next + t.size ≤ i := by
      intro i hi
      have hout := hy i hi
      omega
    have hrest : ∀ i ∈ y, i < next + t.size ∨ next + t.size + ParseTree.sizes ts ≤ i := by
      intro i hi
      have hout := hy i hi
      omega
    rw [forestOrigins_cons, plainForest_cons, ownedBy_append, ownedBy_treeOrigins hfirst,
      ownedBy_forestOrigins hrest, List.filterMap_append]
    by_cases howner : owner = y <;> simp [howner]

end

mutual

/-- The nodes that an entity of a tree owns there are the child nodes of its own node. -/
theorem ownedBy_index_treeOrigins {owner parent : Option Nat} {k : Nat} {t : ParseTree}
    (howner : ∀ i ∈ owner, i < k) {o : Origin}
    (ho : o ∈ treeOrigins source version owner parent k t) :
    ownedBy (some o.entity.index) (treeOrigins source version owner parent k t) =
      o.node.childNodes := by
  match t with
  | .node info children =>
    have hnot : ∀ i, k ≤ i → ¬owner = some i := by
      intro i hi hown
      have hlt := howner i hown
      omega
    cases hm : info.isMissing with
    | true => simp [treeOrigins_of_isMissing hm] at ho
    | false =>
      cases h : makesNode (Entity.ofTree source parent k (.node info children))
        (plainForest source version k (k + 1) children) with
      | true =>
        rw [treeOrigins_of_makesNode h] at ho ⊢
        rcases List.mem_cons.1 ho with rfl | ho
        · have hself : ∀ i ∈ some k, i < k + 1 ∨ k + 1 + ParseTree.sizes children ≤ i := by
            intro i hi
            obtain rfl : k = i := Option.some.inj hi
            omega
          rw [ownedBy_cons_of_ne]
          · exact (ownedBy_forestOrigins hself).trans (if_pos rfl)
          · exact hnot k (Nat.le_refl k)
        · have hrange := index_of_mem_forestOrigins ho
          rw [ownedBy_cons_of_ne]
          · exact ownedBy_index_forestOrigins (by simp) ho
          · exact hnot _ (by omega)
      | false =>
        rw [treeOrigins_of_not_makesNode hm h] at ho ⊢
        refine ownedBy_index_forestOrigins ?_ ho
        intro i hi
        have hlt := howner i hi
        omega

theorem ownedBy_index_forestOrigins {owner : Option Nat} {parent next : Nat}
    {ts : List ParseTree} (howner : ∀ i ∈ owner, i < next) {o : Origin}
    (ho : o ∈ forestOrigins source version owner parent next ts) :
    ownedBy (some o.entity.index) (forestOrigins source version owner parent next ts) =
      o.node.childNodes := by
  match ts with
  | [] => simp at ho
  | t :: ts =>
    have hnot : ∀ i, next ≤ i → ¬owner = some i := by
      intro i hi hown
      have hlt := howner i hown
      omega
    rw [forestOrigins_cons] at ho ⊢
    rw [ownedBy_append]
    rcases List.mem_append.1 ho with ho | ho
    · have hrange := index_of_mem_treeOrigins ho
      have hrest : ownedBy (some o.entity.index)
          (forestOrigins source version owner parent (next + t.size) ts) = [] := by
        rw [ownedBy_forestOrigins (by simp; omega), if_neg (hnot _ (by omega))]
      rw [ownedBy_index_treeOrigins howner ho, hrest, List.append_nil]
    · have hrange := index_of_mem_forestOrigins ho
      have hfirst : ownedBy (some o.entity.index)
          (treeOrigins source version owner (some parent) next t) = [] := by
        rw [ownedBy_treeOrigins (by simp; omega), if_neg (hnot _ (by omega))]
      rw [hfirst, List.nil_append]
      refine ownedBy_index_forestOrigins ?_ ho
      intro i hi
      have hlt := howner i hi
      omega

end

end Recursive

end SyntaxCursor.Conversion
