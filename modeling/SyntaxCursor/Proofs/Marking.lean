import SyntaxCursor.Proofs.Overlay

/-!
# Marking by recursion on the tree

The bearer of a selection in a tree is the first entity on the way up from the located one that
becomes a single node, where nothing below a missing node counts (`treeBearer?`). `flagAt` sets
the flag of one entity's node, whatever is selected. Marking for a selection is flagging the
node of its bearer (`mark_treeItems`), although the hook only goes by what is finished so far:
whatever else it does not concern, it leaves alone, and once it has marked a node it leaves
everything alone (`Inert`).
-/
namespace SyntaxCursor.Conversion

open Abstract Concrete

/-- In state `s` a hook does nothing to the entities numbered from `lo` on and before `hi`. -/
def Inert {σ : Type} (hook : Finish σ) (s : σ) (lo hi : Nat) : Prop :=
  ∀ e is, lo ≤ e.index → e.index < hi → hook e is s = (is, s)

section Inert

variable {σ : Type} {hook : Finish σ} {s : σ} {lo hi : Nat}

theorem Inert.mono (h : Inert hook s lo hi) {lo' hi' : Nat} (hlo : lo ≤ lo') (hhi : hi' ≤ hi) :
    Inert hook s lo' hi' := by
  intro e is hle hlt
  exact h e is (Nat.le_trans hlo hle) (Nat.lt_of_lt_of_le hlt hhi)

variable (source : List UInt8) (version : Int)

mutual

/-- A hook that does nothing below the root of a tree is given the plain items there. -/
theorem treeItems_of_inert_below (parent : Option Nat) (k : Nat) (t : ParseTree)
    (h : Inert hook s (k + 1) (k + t.size)) :
    treeItems source version hook parent k t s =
      hook (Entity.ofTree source parent k t) (plainItems source version parent k t) s := by
  match t with
  | .node info children =>
    cases hm : info.isMissing with
    | true => rw [treeItems_of_isMissing hm, plainItems_of_isMissing hm]
    | false =>
      cases ht : parent.isSome && children.isEmpty && !info.isError with
      | true => rw [treeItems_of_isToken hm ht, plainItems_of_isToken hm ht]
      | false =>
        rw [ParseTree.size_node] at h
        have hbelow := forestItems_of_inert k (k + 1) children
          (h.mono (Nat.le_refl _) (by omega))
        rw [treeItems_of_isNode hm ht, plainItems_of_isNode hm ht, hbelow]

/-- A hook that does nothing to trees leaves their items plain. -/
theorem forestItems_of_inert (parent next : Nat) (ts : List ParseTree)
    (h : Inert hook s next (next + ParseTree.sizes ts)) :
    forestItems source version hook parent next ts s =
      (plainForest source version parent next ts, s) := by
  match ts with
  | [] => rw [forestItems_nil, plainForest_nil]
  | t :: ts =>
    rw [ParseTree.sizes_cons] at h
    have hsize := t.size_pos
    have hfirst := treeItems_of_inert_below (some parent) next t
      (h.mono (by omega) (by omega))
    rw [h _ _ (Nat.le_refl _) (by rw [Entity.ofTree_index]; omega)] at hfirst
    have hrest := forestItems_of_inert parent (next + t.size) ts (h.mono (by omega) (by omega))
    rw [forestItems_cons, plainForest_cons, hfirst, hrest]

end

/-- A hook that does nothing to a tree leaves its items plain. -/
theorem treeItems_of_inert {parent : Option Nat} {k : Nat} {t : ParseTree}
    (h : Inert hook s k (k + t.size)) :
    treeItems source version hook parent k t s =
      (plainItems source version parent k t, s) := by
  have hsize := t.size_pos
  rw [treeItems_of_inert_below source version parent k t (h.mono (by omega) (Nat.le_refl _)),
    h _ _ (Nat.le_refl _) (by rw [Entity.ofTree_index]; omega)]

end Inert

/-- Flag the node among items if it is the only one of them. -/
def flagSingle (is : List Item) : List Item :=
  ((singleNode? is).map fun n => [n.select.toItem]).getD is

theorem flagSingle_of_some {is : List Item} {n : Node} (h : singleNode? is = some n) :
    flagSingle is = [n.select.toItem] := by
  rw [flagSingle, h]
  rfl

/-- The hook that flags the node of entity `j`, whatever is selected. -/
def flagAt (j : Nat) : Finish Unit := fun e is s =>
  (if e.index = j then flagSingle is else is, s)

theorem flagAt_of_ne {e : Entity} {j : Nat} (h : e.index ≠ j) (is : List Item) (s : Unit) :
    flagAt j e is s = (is, s) := by
  rw [flagAt, if_neg h]

theorem inert_flagAt {j lo hi : Nat} (h : j < lo ∨ hi ≤ j) : Inert (flagAt j) () lo hi := by
  intro e is hlo hhi
  exact flagAt_of_ne (by omega) is ()

theorem treeItems_flagAt_root (source : List UInt8) (version : Int) (parent : Option Nat)
    (k : Nat) (t : ParseTree) :
    treeItems source version (flagAt k) parent k t () =
      (flagSingle (plainItems source version parent k t), ()) := by
  rw [treeItems_of_inert_below source version parent k t (inert_flagAt (by omega)), flagAt,
    Entity.ofTree_index, if_pos rfl]

/-- Where nothing was selected, the flagged node is all that is. -/
theorem selectedIn_flagSingle {is : List Item} {n : Node} (h : singleNode? is = some n)
    (hplain : Item.selectedIn is = []) : Item.selectedIn (flagSingle is) = [n.select] := by
  rw [singleNode?_eq_some_iff.1 h, Node.toItem, Item.selectedIn_node,
    List.append_eq_nil_iff] at hplain
  rw [flagSingle_of_some h, Node.toItem, Item.selectedIn_node]
  simp [Node.select, hplain.2]

/-- The overlay once the node of an entity is marked. -/
def Overlay.after (o : Overlay) (e : Entity) (n : Node) : Overlay :=
  let s := { o.selection with resolved := true }
  { selection := s, marks := o.marks ++ [(.marked n.select.info e, s)] }

/-- An overlay still waits for a node to mark, and of the entities numbered from `lo` on and
before `hi` its selection concerns those on a path. -/
structure Overlay.Awaits (o : Overlay) (path : List Nat) (lo hi : Nat) : Prop where
  nonempty : o.selection.isEmpty = false
  unresolved : o.selection.resolved = false
  concerns_iff : ∀ j, lo ≤ j → j < hi → (o.selection.concerns j = true ↔ j ∈ path)

section Mark

variable {o : Overlay} {path : List Nat} {lo hi : Nat}

theorem Overlay.Awaits.mono (h : o.Awaits path lo hi) {path' : List Nat} {lo' hi' : Nat}
    (hlo : lo ≤ lo') (hhi : hi' ≤ hi)
    (hpath : ∀ j, lo' ≤ j → j < hi' → (j ∈ path ↔ j ∈ path')) : o.Awaits path' lo' hi' where
  nonempty := h.nonempty
  unresolved := h.unresolved
  concerns_iff := by
    intro j hle hlt
    rw [h.concerns_iff j (Nat.le_trans hlo hle) (Nat.lt_of_lt_of_le hlt hhi), hpath j hle hlt]

theorem inert_mark_of_awaits (h : o.Awaits path lo hi)
    (hpath : ∀ j ∈ path, j < lo ∨ hi ≤ j) : Inert mark o lo hi := by
  intro e is hle hlt
  have hconcerns : o.selection.concerns e.index = false := by
    rw [Bool.eq_false_iff, ne_eq, h.concerns_iff e.index hle hlt]
    intro hmem
    have := hpath e.index hmem
    omega
  simp [mark, hconcerns]

theorem inert_mark_after (o : Overlay) (e : Entity) (n : Node) (lo hi : Nat) :
    Inert mark (o.after e n) lo hi := by
  intro e' is _ _
  simp [mark, Overlay.after]

theorem mark_of_awaits (h : o.Awaits path lo hi) {e : Entity} (hle : lo ≤ e.index)
    (hlt : e.index < hi) (hmem : e.index ∈ path) (is : List Item) :
    mark e is o =
      match singleNode? is with
      | none => (is, o)
      | some n => (flagSingle is, o.after e n) := by
  have hconcerns := (h.concerns_iff e.index hle hlt).2 hmem
  cases hsingle : singleNode? is with
  | none => simp [mark, hsingle]
  | some n =>
    rw [flagSingle_of_some hsingle]
    simp [mark, hsingle, h.nonempty, h.unresolved, hconcerns, Overlay.after, Node.select,
      Node.toItem]

end Mark

section Bearer

variable (source : List UInt8) (version : Int)

/-- The root of a tree and its node, if it becomes a single one. -/
def rootBearer? (parent : Option Nat) (k : Nat) (t : ParseTree) : Option (Entity × Node) :=
  (singleNode? (plainItems source version parent k t)).map
    fun n => (Entity.ofTree source parent k t, n)

variable (i : Nat)

mutual

/-- The first entity on the way from number `i` up to the root of a tree that becomes a single
node, together with this node. Nothing below a missing node counts. -/
def treeBearer? (parent : Option Nat) (k : Nat) : ParseTree → Option (Entity × Node)
  | .node info children =>
    let own := rootBearer? source version parent k (.node info children)
    if i = k || info.isMissing then own
    else (forestBearer? k (k + 1) children).or own

/-- The same for the tree under one node that number `i` belongs to. -/
def forestBearer? (parent next : Nat) : List ParseTree → Option (Entity × Node)
  | [] => none
  | t :: ts =>
    if i < next + t.size then treeBearer? (some parent) next t
    else forestBearer? parent (next + t.size) ts

end

end Bearer

section Equations

variable {source : List UInt8} {version : Int} {i k : Nat} {parent : Option Nat}
  {info : ParseInfo} {children : List ParseTree}

theorem treeBearer?_of_stop (h : i = k ∨ info.isMissing = true) :
    treeBearer? source version i parent k (.node info children) =
      rootBearer? source version parent k (.node info children) := by
  rw [treeBearer?, if_pos (by simpa using h)]

theorem treeBearer?_of_below (hi : i ≠ k) (hm : info.isMissing = false) :
    treeBearer? source version i parent k (.node info children) =
      (forestBearer? source version i k (k + 1) children).or
        (rootBearer? source version parent k (.node info children)) := by
  rw [treeBearer?, if_neg (by simp [hi, hm])]

@[simp] theorem forestBearer?_nil {parent next : Nat} :
    forestBearer? source version i parent next [] = none := by
  rw [forestBearer?]

theorem forestBearer?_cons_of_lt {parent next : Nat} {t : ParseTree} {ts : List ParseTree}
    (h : i < next + t.size) :
    forestBearer? source version i parent next (t :: ts) =
      treeBearer? source version i (some parent) next t := by
  rw [forestBearer?, if_pos h]

theorem forestBearer?_cons_of_le {parent next : Nat} {t : ParseTree} {ts : List ParseTree}
    (h : next + t.size ≤ i) :
    forestBearer? source version i parent next (t :: ts) =
      forestBearer? source version i parent (next + t.size) ts := by
  rw [forestBearer?, if_neg (by omega)]

theorem eq_of_rootBearer? {t : ParseTree} {e : Entity} {n : Node}
    (h : rootBearer? source version parent k t = some (e, n)) :
    e = Entity.ofTree source parent k t ∧
      singleNode? (plainItems source version parent k t) = some n := by
  rw [rootBearer?, Option.map_eq_some_iff] at h
  obtain ⟨m, hm, heq⟩ := h
  obtain ⟨rfl, rfl⟩ := Prod.mk.inj heq
  exact ⟨rfl, hm⟩

mutual

/-- A bearer is an entity of the tree. -/
theorem index_of_treeBearer? {parent : Option Nat} {k : Nat} {t : ParseTree} {e : Entity}
    {n : Node} (h : treeBearer? source version i parent k t = some (e, n)) :
    k ≤ e.index ∧ e.index < k + t.size := by
  match t with
  | .node info children =>
    rw [ParseTree.size_node]
    by_cases hstop : i = k ∨ info.isMissing = true
    · rw [treeBearer?_of_stop hstop] at h
      rw [(eq_of_rootBearer? h).1, Entity.ofTree_index]
      omega
    · obtain ⟨hi, hm⟩ := not_or.1 hstop
      rw [treeBearer?_of_below hi (by simpa using hm), Option.or_eq_some_iff] at h
      rcases h with h | ⟨_, h⟩
      · have := index_of_forestBearer? h
        omega
      · rw [(eq_of_rootBearer? h).1, Entity.ofTree_index]
        omega

theorem index_of_forestBearer? {parent next : Nat} {ts : List ParseTree} {e : Entity}
    {n : Node} (h : forestBearer? source version i parent next ts = some (e, n)) :
    next ≤ e.index ∧ e.index < next + ParseTree.sizes ts := by
  match ts with
  | [] => simp at h
  | t :: ts =>
    rw [ParseTree.sizes_cons]
    by_cases hit : i < next + t.size
    · rw [forestBearer?_cons_of_lt hit] at h
      have := index_of_treeBearer? h
      omega
    · rw [forestBearer?_cons_of_le (by omega)] at h
      have := index_of_forestBearer? h
      omega

end

end Equations

section Marked

variable (source : List UInt8) (version : Int)

/-- A tree with the node of its bearer flagged, if it has one. -/
def treeMarked (parent : Option Nat) (k : Nat) (t : ParseTree) (o : Overlay) :
    Option (Entity × Node) → List Item × Overlay
  | none => (plainItems source version parent k t, o)
  | some (e, n) => ((treeItems source version (flagAt e.index) parent k t ()).1, o.after e n)

/-- Trees under one node with the node of their bearer flagged, if they have one. -/
def forestMarked (parent next : Nat) (ts : List ParseTree) (o : Overlay) :
    Option (Entity × Node) → List Item × Overlay
  | none => (plainForest source version parent next ts, o)
  | some (e, n) => ((forestItems source version (flagAt e.index) parent next ts ()).1, o.after e n)

end Marked

section Awaits

variable {o : Overlay} {i k : Nat} {info : ParseInfo} {t : ParseTree} {ts : List ParseTree}

/-- If the located entity is the root of a tree, nothing below the root is concerned. -/
theorem inert_mark_below_root (h : o.Awaits (t.pathTo i k) k (k + t.size)) (hik : i = k) :
    Inert mark o (k + 1) (k + t.size) := by
  refine inert_mark_of_awaits (h.mono (by omega) (Nat.le_refl _) fun _ _ _ => Iff.rfl) ?_
  intro j hj
  cases t with
  | node info children =>
    rw [ParseTree.pathTo_node, if_pos hik, List.mem_singleton] at hj
    omega

theorem Overlay.Awaits.children
    (h : o.Awaits ((ParseTree.node info ts).pathTo i k) k (k + (ParseTree.node info ts).size))
    (hik : i ≠ k) :
    o.Awaits (ParseTree.pathToList i (k + 1) ts) (k + 1) (k + 1 + ParseTree.sizes ts) := by
  refine h.mono (by omega) (by rw [ParseTree.size_node]; omega) ?_
  intro j hj _
  rw [ParseTree.pathTo_node, if_neg hik, List.mem_append, List.mem_singleton]
  constructor
  · intro hmem
    exact hmem.resolve_right (by omega)
  · exact Or.inl

variable {next : Nat}
  (h : o.Awaits (ParseTree.pathToList i next (t :: ts)) next
    (next + ParseTree.sizes (t :: ts)))

include h

/-- If the located entity belongs to the first of some trees, those after it are left alone. -/
theorem Overlay.Awaits.first (hit : i < next + t.size) :
    o.Awaits (t.pathTo i next) next (next + t.size) ∧
      Inert mark o (next + t.size) (next + t.size + ParseTree.sizes ts) := by
  rw [ParseTree.pathToList_cons, if_pos hit, ParseTree.sizes_cons] at h
  refine ⟨h.mono (Nat.le_refl _) (by omega) fun _ _ _ => Iff.rfl, ?_⟩
  refine inert_mark_of_awaits (h.mono (by omega) (by omega) fun _ _ _ => Iff.rfl) ?_
  intro j hj
  exact Or.inl (ParseTree.mem_pathTo hj).2

/-- If the located entity does not belong to the first of some trees, this one is left alone. -/
theorem Overlay.Awaits.rest (hit : next + t.size ≤ i) :
    o.Awaits (ParseTree.pathToList i (next + t.size) ts) (next + t.size)
        (next + t.size + ParseTree.sizes ts) ∧
      Inert mark o next (next + t.size) := by
  rw [ParseTree.pathToList_cons, if_neg (by omega), ParseTree.sizes_cons] at h
  refine ⟨h.mono (by omega) (by omega) fun _ _ _ => Iff.rfl, ?_⟩
  refine inert_mark_of_awaits (h.mono (Nat.le_refl _) (by omega) fun _ _ _ => Iff.rfl) ?_
  intro j hj
  exact Or.inr (ParseTree.mem_pathToList hj).1

end Awaits

section Simulation

variable (source : List UInt8) (version : Int) (i : Nat)

/-- What the hook does at the root of a tree if nothing was marked below. -/
theorem mark_root (parent : Option Nat) {k : Nat} {t : ParseTree} {o : Overlay}
    (h : o.Awaits (t.pathTo i k) k (k + t.size)) :
    mark (Entity.ofTree source parent k t) (plainItems source version parent k t) o =
      treeMarked source version parent k t o (rootBearer? source version parent k t) := by
  have hsize := t.size_pos
  rw [mark_of_awaits h (Nat.le_refl _) (by rw [Entity.ofTree_index]; omega)
    (ParseTree.root_mem_pathTo i k t), rootBearer?]
  cases singleNode? (plainItems source version parent k t) with
  | none => rfl
  | some n => rw [Option.map_some, treeMarked, Entity.ofTree_index, treeItems_flagAt_root]

mutual

/-- Marking a tree that the located entity belongs to is flagging the node of its bearer. -/
theorem mark_treeItems (parent : Option Nat) (k : Nat) (t : ParseTree) {o : Overlay}
    (hk : k ≤ i) (hi : i < k + t.size) (h : o.Awaits (t.pathTo i k) k (k + t.size)) :
    treeItems source version mark parent k t o =
      treeMarked source version parent k t o (treeBearer? source version i parent k t) := by
  have hroot := mark_root source version i parent h
  match t with
  | .node info children =>
    by_cases hik : i = k
    · rw [treeItems_of_inert_below source version parent k _ (inert_mark_below_root h hik), hroot,
        treeBearer?_of_stop (Or.inl hik)]
    cases hm : info.isMissing with
    | true =>
      rw [treeItems_of_isMissing hm, ← plainItems_of_isMissing hm, hroot,
        treeBearer?_of_stop (Or.inr hm)]
    | false =>
      have hleaf : (parent.isSome && children.isEmpty && !info.isError) = false := by
        cases children with
        | nil => simp at hi; omega
        | cons t ts => simp
      rw [ParseTree.size_node] at hi
      have hforest := mark_forestItems k (k + 1) children (by omega) (by omega) (h.children hik)
      rw [treeItems_of_isNode hm hleaf, hforest, treeBearer?_of_below hik hm]
      cases hbearer : forestBearer? source version i k (k + 1) children with
      | none => rw [forestMarked, ← plainItems_of_isNode hm hleaf, hroot, Option.none_or]
      | some b =>
        -- The node was marked below, so that both hooks do nothing at the root.
        obtain ⟨e, n⟩ := b
        have hindex := index_of_forestBearer? hbearer
        rw [Option.some_or, forestMarked, treeMarked, treeItems_of_isNode hm hleaf,
          flagAt_of_ne (by rw [Entity.ofTree_index]; omega),
          inert_mark_after o e n k (k + 1) _ _ (Nat.le_refl _) (by rw [Entity.ofTree_index]; omega)]

/-- Marking trees under one node is flagging the node of the bearer among them. -/
theorem mark_forestItems (parent next : Nat) (ts : List ParseTree) {o : Overlay}
    (hn : next ≤ i) (hi : i < next + ParseTree.sizes ts)
    (h : o.Awaits (ParseTree.pathToList i next ts) next (next + ParseTree.sizes ts)) :
    forestItems source version mark parent next ts o =
      forestMarked source version parent next ts o
        (forestBearer? source version i parent next ts) := by
  match ts with
  | [] => simp at hi; omega
  | t :: ts =>
    rw [ParseTree.sizes_cons] at hi
    by_cases hit : i < next + t.size
    · obtain ⟨hfirst, hrest⟩ := h.first hit
      rw [forestBearer?_cons_of_lt hit, forestItems_cons,
        mark_treeItems (some parent) next t hn hit hfirst]
      cases hbearer : treeBearer? source version i (some parent) next t with
      | none =>
        rw [treeMarked, forestMarked, plainForest_cons,
          forestItems_of_inert source version parent _ ts hrest]
      | some b =>
        obtain ⟨e, n⟩ := b
        have hindex := index_of_treeBearer? hbearer
        rw [treeMarked, forestMarked, forestItems_cons,
          forestItems_of_inert source version parent _ ts (inert_mark_after o e n _ _),
          forestItems_of_inert source version parent _ ts (inert_flagAt (by omega))]
    · have hle : next + t.size ≤ i := by omega
      obtain ⟨hrest, hfirst⟩ := h.rest hle
      rw [forestBearer?_cons_of_le hle, forestItems_cons, treeItems_of_inert source version hfirst,
        mark_forestItems parent (next + t.size) ts hle (by omega) hrest]
      cases hbearer : forestBearer? source version i parent (next + t.size) ts with
      | none => rw [forestMarked, forestMarked, plainForest_cons]
      | some b =>
        obtain ⟨e, n⟩ := b
        have hindex := index_of_forestBearer? hbearer
        rw [forestMarked, forestMarked, forestItems_cons,
          treeItems_of_inert source version (inert_flagAt (by omega))]

end

end Simulation

section Selected

variable {source : List UInt8} {version : Int} {i : Nat}

theorem selectedIn_of_rootBearer? {parent : Option Nat} {k : Nat} {t : ParseTree} {e : Entity}
    {n : Node} (h : rootBearer? source version parent k t = some (e, n)) :
    Item.selectedIn (treeItems source version (flagAt e.index) parent k t ()).1 = [n.select] := by
  obtain ⟨rfl, hsingle⟩ := eq_of_rootBearer? h
  rw [Entity.ofTree_index, treeItems_flagAt_root]
  exact selectedIn_flagSingle hsingle (selectedIn_plainItems source version parent k t)

mutual

/-- The flagged node of a bearer reaches the root of the tree, and is all that is selected. -/
theorem selectedIn_of_treeBearer? {parent : Option Nat} {k : Nat} {t : ParseTree} {e : Entity}
    {n : Node} (h : treeBearer? source version i parent k t = some (e, n)) :
    Item.selectedIn (treeItems source version (flagAt e.index) parent k t ()).1 = [n.select] := by
  match t with
  | .node info children =>
    by_cases hstop : i = k ∨ info.isMissing = true
    · rw [treeBearer?_of_stop hstop] at h
      exact selectedIn_of_rootBearer? h
    · obtain ⟨hi, hm⟩ := not_or.1 hstop
      have hm : info.isMissing = false := by simpa using hm
      rw [treeBearer?_of_below hi hm, Option.or_eq_some_iff] at h
      rcases h with h | ⟨_, h⟩
      · have hleaf : (parent.isSome && children.isEmpty && !info.isError) = false := by
          cases children with
          | nil => simp at h
          | cons t ts => simp
        have hindex := index_of_forestBearer? h
        rw [treeItems_of_isNode hm hleaf, flagAt_of_ne (by rw [Entity.ofTree_index]; omega),
          selectedIn_nodeItems]
        exact selectedIn_of_forestBearer? h
      · exact selectedIn_of_rootBearer? h

theorem selectedIn_of_forestBearer? {parent next : Nat} {ts : List ParseTree} {e : Entity}
    {n : Node} (h : forestBearer? source version i parent next ts = some (e, n)) :
    Item.selectedIn (forestItems source version (flagAt e.index) parent next ts ()).1 =
      [n.select] := by
  match ts with
  | [] => simp at h
  | t :: ts =>
    rw [forestItems_cons, Item.selectedIn_append]
    by_cases hit : i < next + t.size
    · rw [forestBearer?_cons_of_lt hit] at h
      have hindex := index_of_treeBearer? h
      rw [selectedIn_of_treeBearer? h,
        forestItems_of_inert source version parent _ ts (inert_flagAt (by omega)),
        selectedIn_plainForest, List.append_nil]
    · rw [forestBearer?_cons_of_le (by omega)] at h
      have hindex := index_of_forestBearer? h
      rw [treeItems_of_inert source version (inert_flagAt (by omega)), selectedIn_plainItems,
        List.nil_append]
      exact selectedIn_of_forestBearer? h

end

end Selected

end SyntaxCursor.Conversion
