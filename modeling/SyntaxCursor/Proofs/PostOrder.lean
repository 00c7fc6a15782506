import SyntaxCursor.Proofs.Boundaries
import SyntaxCursor.Proofs.Finished
import SyntaxCursor.Proofs.Pending

/-!
# The walk is a post-order

The conversion that the walk computes is a recursion on the parse tree that knows nothing of
numbers (`converted`). The calls of the hook come in post-order, one for each entity that is
not below a missing one, and what a call is given is made of what the calls for the children
gave back (`PostOrder`).
-/
namespace SyntaxCursor.Concrete.Arena

/-- In post-order an entity comes before those that enclose it, and of two that do not enclose
each other the one further to the left comes first. -/
def FinishesBefore (a : Arena) (i j : Nat) : Prop :=
  j ∈ a.ancestors i ∨ (i < j ∧ i ∉ a.ancestors j)

theorem FinishesBefore.ne {a : Arena} {i j : Nat} (h : a.FinishesBefore i j) : i ≠ j := by
  rcases h with h | ⟨h, _⟩
  · exact Nat.ne_of_gt (lt_of_mem_ancestors h)
  · exact Nat.ne_of_lt h

theorem HoldsList.le_of_mem_ancestors {a : Arena} {parent next : Nat} {ts : List ParseTree}
    (h : a.HoldsList parent next ts) {i j : Nat} (hn : next ≤ j)
    (hj : j < next + ParseTree.sizes ts) (hi : i ∈ a.ancestors j) : i ≤ parent ∨ next ≤ i := by
  have hmem : i ∈ a.chain j := List.mem_cons_of_mem j hi
  rw [h.chain_eq hn hj, List.mem_append] at hmem
  rcases hmem with hmem | hmem
  · exact Or.inr (ParseTree.mem_pathToList hmem).1
  · rcases List.mem_cons.1 hmem with rfl | hmem
    · exact Or.inl (Nat.le_refl _)
    · exact Or.inl (Nat.le_of_lt (lt_of_mem_ancestors hmem))

end SyntaxCursor.Concrete.Arena

namespace SyntaxCursor.Conversion

open Abstract Concrete

mutual

/-- The items of a parse tree. -/
def converted (source : List UInt8) (version : Int) (isRoot : Bool) : ParseTree → List Item
  | .node info children =>
    if info.isMissing then []
    else if !isRoot && children.isEmpty && !info.isError then
      tokenItems version info (slice source info.start info.stop)
    else nodeItems version info (convertedList source version children)

/-- The items of the trees under one node, joined. -/
def convertedList (source : List UInt8) (version : Int) : List ParseTree → List Item
  | [] => []
  | t :: ts => converted source version false t ++ convertedList source version ts

end

theorem text_of_isToken {source : List UInt8} {parent : Option Nat} {k : Nat} {info : ParseInfo}
    {children : List ParseTree}
    (ht : (parent.isSome && children.isEmpty && !info.isError) = true) :
    (Entity.ofTree source parent k (.node info children)).text =
      slice source info.start info.stop := by
  rw [Bool.and_eq_true] at ht
  exact if_pos ht.1

/-- A hook that gives back the items that it is given. -/
def HandsOn {σ : Type} (hook : Finish σ) : Prop := ∀ e is s, (hook e is s).1 = is

theorem handsOn_keep : HandsOn keep := fun _ _ _ => rfl

section Converted

variable {σ : Type} (source : List UInt8) (version : Int) {hook : Finish σ}

mutual

/-- With a hook that hands everything on, the items do not depend on numbers. -/
theorem treeItems_eq_converted (hhook : HandsOn hook) (parent : Option Nat) (k : Nat)
    (t : ParseTree) (s : σ) :
    (treeItems source version hook parent k t s).1 =
      converted source version parent.isNone t := by
  match t with
  | .node info children =>
    rw [converted, Option.not_isNone]
    cases hm : info.isMissing with
    | true =>
      rw [treeItems_of_isMissing hm, hhook]
      rfl
    | false =>
      cases ht : parent.isSome && children.isEmpty && !info.isError with
      | true =>
        rw [treeItems_of_isToken hm ht, hhook, text_of_isToken ht]
        rfl
      | false =>
        rw [treeItems_of_isNode hm ht, hhook, forestItems_eq_convertedList hhook]
        rfl

theorem forestItems_eq_convertedList (hhook : HandsOn hook) (parent next : Nat)
    (ts : List ParseTree) (s : σ) :
    (forestItems source version hook parent next ts s).1 = convertedList source version ts := by
  match ts with
  | [] => rw [forestItems_nil, convertedList]
  | t :: ts =>
    rw [forestItems_cons, convertedList, treeItems_eq_converted hhook,
      forestItems_eq_convertedList hhook]
    rfl

end

end Converted

/-- A call of the hook: the number of the entity, the items that the hook is given, and those
that it gives back. -/
structure Call where
  index : Nat
  given : List Item
  kept : List Item

/-- The hook with its calls noted. -/
def noting {σ : Type} (hook : Finish σ) : Finish (σ × List Call) := fun e items s =>
  let (kept, state) := hook e items s.1
  (kept, state, s.2 ++ [⟨e.index, items, kept⟩])

/-- The items that an entity becomes, given those that its children become. -/
def itemsFrom (version : Int) (e : Entity) (below : List Item) : List Item :=
  if e.isMissing then []
  else if e.isToken && !e.isError then tokenItems version e.toParseInfo e.text
  else nodeItems version e.toParseInfo below

section Calls

variable {σ : Type} (source : List UInt8) (version : Int) (hook : Finish σ)

mutual

/-- The calls for the entities of a tree, in order. -/
def treeCalls (parent : Option Nat) (k : Nat) : ParseTree → σ → List Call
  | .node info children, s =>
    let e := Entity.ofTree source parent k (.node info children)
    let below := (forestItems source version hook k (k + 1) children s).1
    (if info.isMissing then [] else forestCalls k (k + 1) children s) ++
      [⟨k, itemsFrom version e below,
        (treeItems source version hook parent k (.node info children) s).1⟩]

/-- The calls for the entities of trees that hang under one node. -/
def forestCalls (parent next : Nat) : List ParseTree → σ → List Call
  | [], _ => []
  | t :: ts, s =>
    treeCalls (some parent) next t s ++
      forestCalls parent (next + t.size) ts
        (treeItems source version hook (some parent) next t s).2

end

end Calls

section Equations

variable {σ : Type} {source : List UInt8} {version : Int} {hook : Finish σ}
  {parent : Option Nat} {k : Nat} {info : ParseInfo} {children : List ParseTree} {s : σ}

theorem itemsFrom_of_isMissing {e : Entity} (hm : e.isMissing = true) (below : List Item) :
    itemsFrom version e below = [] := by
  rw [itemsFrom, if_pos hm]

theorem itemsFrom_of_isToken {e : Entity} (hm : e.isMissing = false)
    (ht : (e.isToken && !e.isError) = true) (below : List Item) :
    itemsFrom version e below = tokenItems version e.toParseInfo e.text := by
  rw [itemsFrom, if_neg (by simp [hm]), if_pos ht]

theorem itemsFrom_of_isNode {e : Entity} (hm : e.isMissing = false)
    (ht : (e.isToken && !e.isError) = false) (below : List Item) :
    itemsFrom version e below = nodeItems version e.toParseInfo below := by
  rw [itemsFrom, if_neg (by simp [hm]), if_neg (by simp [ht])]

/-- Of an entity that is not missing, the items are made of those of its children; a token has
none. -/
theorem treeItems_of_not_isMissing (hm : info.isMissing = false) :
    treeItems source version hook parent k (.node info children) s =
      hook (Entity.ofTree source parent k (.node info children))
        (itemsFrom version (Entity.ofTree source parent k (.node info children))
          (forestItems source version hook k (k + 1) children s).1)
        (forestItems source version hook k (k + 1) children s).2 := by
  cases ht : parent.isSome && children.isEmpty && !info.isError with
  | true =>
    obtain rfl := (isLeaf_of_isToken ht).1
    rw [treeItems_of_isToken hm ht, itemsFrom_of_isToken (by exact hm) (by exact ht),
      forestItems_nil]
    rfl
  | false =>
    rw [treeItems_of_isNode hm ht, itemsFrom_of_isNode (by exact hm) (by exact ht)]
    rfl

theorem treeCalls_of_isMissing (hm : info.isMissing = true) :
    treeCalls source version hook parent k (.node info children) s =
      [⟨k, [], (treeItems source version hook parent k (.node info children) s).1⟩] := by
  rw [treeCalls, if_pos hm, List.nil_append, itemsFrom_of_isMissing hm]

theorem treeCalls_of_not_isMissing (hm : info.isMissing = false) :
    treeCalls source version hook parent k (.node info children) s =
      forestCalls source version hook k (k + 1) children s ++
        [⟨k, itemsFrom version (Entity.ofTree source parent k (.node info children))
            (forestItems source version hook k (k + 1) children s).1,
          (treeItems source version hook parent k (.node info children) s).1⟩] := by
  rw [treeCalls, if_neg (by simp [hm])]

@[simp] theorem forestCalls_nil {parent next : Nat} :
    forestCalls source version hook parent next [] s = [] := by
  rw [forestCalls]

theorem forestCalls_cons {parent next : Nat} {t : ParseTree} {ts : List ParseTree} :
    forestCalls source version hook parent next (t :: ts) s =
      treeCalls source version hook (some parent) next t s ++
        forestCalls source version hook parent (next + t.size) ts
          (treeItems source version hook (some parent) next t s).2 := by
  rw [forestCalls]

end Equations

section Noting

variable {σ : Type} (source : List UInt8) (version : Int) (hook : Finish σ)

mutual

/-- Noting the calls changes nothing else. -/
theorem treeItems_noting (parent : Option Nat) (k : Nat) (t : ParseTree) (s : σ)
    (calls : List Call) :
    treeItems source version (noting hook) parent k t (s, calls) =
      ((treeItems source version hook parent k t s).1,
        (treeItems source version hook parent k t s).2,
        calls ++ treeCalls source version hook parent k t s) := by
  match t with
  | .node info children =>
    cases hm : info.isMissing with
    | true =>
      rw [treeCalls_of_isMissing hm, treeItems_of_isMissing hm, treeItems_of_isMissing hm]
      rfl
    | false =>
      rw [treeCalls_of_not_isMissing hm, treeItems_of_not_isMissing hm, forestItems_noting,
        treeItems_of_not_isMissing hm, ← List.append_assoc]
      rfl

theorem forestItems_noting (parent next : Nat) (ts : List ParseTree) (s : σ)
    (calls : List Call) :
    forestItems source version (noting hook) parent next ts (s, calls) =
      ((forestItems source version hook parent next ts s).1,
        (forestItems source version hook parent next ts s).2,
        calls ++ forestCalls source version hook parent next ts s) := by
  match ts with
  | [] => simp
  | t :: ts =>
    rw [forestItems_cons, treeItems_noting, forestItems_noting, forestItems_cons,
      forestCalls_cons, List.append_assoc]

end

mutual

/-- The calls are made for the entities that the walk finishes, in this order. -/
theorem map_index_treeCalls (parent : Option Nat) (k : Nat) (t : ParseTree) (s : σ) :
    (treeCalls source version hook parent k t s).map Call.index = treeFinished k t := by
  match t with
  | .node info children =>
    cases hm : info.isMissing with
    | true =>
      rw [treeCalls_of_isMissing hm, treeFinished_of_isMissing hm]
      rfl
    | false =>
      rw [treeCalls_of_not_isMissing hm, treeFinished_of_not_isMissing hm, List.map_append,
        map_index_forestCalls]
      rfl

theorem map_index_forestCalls (parent next : Nat) (ts : List ParseTree) (s : σ) :
    (forestCalls source version hook parent next ts s).map Call.index =
      forestFinished next ts := by
  match ts with
  | [] => rw [forestCalls_nil, forestFinished_nil, List.map_nil]
  | t :: ts =>
    rw [forestCalls_cons, forestFinished_cons, List.map_append, map_index_treeCalls,
      map_index_forestCalls]

end

end Noting

mutual

theorem range_of_mem_treeFinished {k i : Nat} {t : ParseTree} (h : i ∈ treeFinished k t) :
    k ≤ i ∧ i < k + t.size := by
  match t with
  | .node info children =>
    rw [ParseTree.size_node]
    cases hm : info.isMissing with
    | true =>
      rw [treeFinished_of_isMissing hm, List.mem_singleton] at h
      omega
    | false =>
      rw [treeFinished_of_not_isMissing hm, List.mem_append, List.mem_singleton] at h
      rcases h with h | rfl
      · have hrange := range_of_mem_forestFinished h
        omega
      · omega

theorem range_of_mem_forestFinished {next i : Nat} {ts : List ParseTree}
    (h : i ∈ forestFinished next ts) : next ≤ i ∧ i < next + ParseTree.sizes ts := by
  match ts with
  | [] => simp at h
  | t :: ts =>
    rw [forestFinished_cons, List.mem_append] at h
    rw [ParseTree.sizes_cons]
    rcases h with h | h
    · have hrange := range_of_mem_treeFinished h
      omega
    · have hrange := range_of_mem_forestFinished h
      omega

end

section Order

variable {a : Arena}

mutual

/-- A held tree is finished in post-order. -/
theorem pairwise_treeFinished {parent : Option Nat} {k : Nat} {t : ParseTree}
    (h : a.Holds parent k t) : (treeFinished k t).Pairwise a.FinishesBefore := by
  match t with
  | .node info children =>
    cases hm : info.isMissing with
    | true =>
      rw [treeFinished_of_isMissing hm]
      exact List.pairwise_singleton _ _
    | false =>
      rw [treeFinished_of_not_isMissing hm, List.pairwise_append]
      refine ⟨pairwise_forestFinished (Arena.holds_node.1 h).2, List.pairwise_singleton _ _, ?_⟩
      intro i hi j hj
      obtain rfl := List.mem_singleton.1 hj
      have hrange := range_of_mem_forestFinished hi
      exact Or.inl (h.mem_ancestors (by omega) (by rw [ParseTree.size_node]; omega))

theorem pairwise_forestFinished {parent next : Nat} {ts : List ParseTree}
    (h : a.HoldsList parent next ts) :
    (forestFinished next ts).Pairwise a.FinishesBefore := by
  match ts with
  | [] => simp
  | t :: ts =>
    obtain ⟨ht, hts⟩ := Arena.holdsList_cons.1 h
    rw [forestFinished_cons, List.pairwise_append]
    refine ⟨pairwise_treeFinished ht, pairwise_forestFinished hts, ?_⟩
    intro i hi j hj
    have hleft := range_of_mem_treeFinished hi
    have hright := range_of_mem_forestFinished hj
    refine Or.inr ⟨by omega, ?_⟩
    -- What encloses `j` lies right of `i` or is at most the common parent.
    intro hmem
    have hparent := Arena.parent?_lt ht.parent?_eq
    have hcases := hts.le_of_mem_ancestors hright.1 hright.2 hmem
    omega

end

theorem nodup_treeFinished {parent : Option Nat} {k : Nat} {t : ParseTree}
    (h : a.Holds parent k t) : (treeFinished k t).Nodup :=
  (pairwise_treeFinished h).imp Arena.FinishesBefore.ne

end Order

/-- What the call for an entity gave back. -/
def keptFor (calls : List Call) (i : Nat) : List Item :=
  ((calls.find? fun c => c.index == i).map Call.kept).getD []

theorem keptFor_of_mem {calls : List Call} (h : (calls.map Call.index).Nodup) {c : Call}
    (hc : c ∈ calls) : keptFor calls c.index = c.kept := by
  induction calls with
  | nil => contradiction
  | cons c' calls ih =>
    rw [List.map_cons, List.nodup_cons] at h
    rcases List.mem_cons.1 hc with rfl | hc
    · simp [keptFor]
    · have hne : c'.index ≠ c.index := by
        intro heq
        exact h.1 (heq ▸ List.mem_map_of_mem hc)
      have hrest := ih h.2 hc
      rw [keptFor, List.find?_cons_of_neg (by simpa using hne)]
      exact hrest

/-- A call is given the items that are made of those which the calls for the children gave
back, and gives back what the hook makes of them. -/
def Call.Follows {σ : Type} (a : Arena) (version : Int) (hook : Finish σ)
    (kept : Nat → List Item) (c : Call) : Prop :=
  ∃ e s, a.entity? c.index = some e ∧
    c.given = itemsFrom version e (e.children.flatMap kept) ∧ c.kept = (hook e c.given s).1

section Given

variable {σ : Type} {a : Arena} {version : Int} {hook : Finish σ} {kept : Nat → List Item}

/-- The last call for a tree gives back the items of the tree. -/
theorem exists_mem_treeCalls (source : List UInt8) (version : Int) (hook : Finish σ)
    (parent : Option Nat) (k : Nat) (t : ParseTree) (s : σ) :
    ∃ c ∈ treeCalls source version hook parent k t s,
      c.index = k ∧ c.kept = (treeItems source version hook parent k t s).1 := by
  cases t with
  | node info children =>
    rw [treeCalls]
    exact ⟨_, List.mem_append_right _ (List.mem_singleton_self _), rfl, rfl⟩

/-- What the calls for the children gave back makes up the items below a node. -/
theorem flatMap_kept {source : List UInt8} {parent next : Nat} {ts : List ParseTree} {s : σ}
    (hkept : ∀ c ∈ forestCalls source version hook parent next ts s, kept c.index = c.kept) :
    (ParseTree.positions next ts).flatMap kept =
      (forestItems source version hook parent next ts s).1 := by
  induction ts generalizing next s with
  | nil => simp [ParseTree.positions]
  | cons t ts ih =>
    rw [forestCalls_cons] at hkept
    obtain ⟨c, hc, hindex, hitems⟩ :=
      exists_mem_treeCalls source version hook (some parent) next t s
    have hfirst := hkept c (List.mem_append_left _ hc)
    have hrest := ih fun c hc => hkept c (List.mem_append_right _ hc)
    rw [ParseTree.positions, List.flatMap_cons, ← hindex, hfirst, hitems, hindex, hrest,
      forestItems_cons]

mutual

/-- If `kept` knows what the calls for a held tree gave back, each of them follows from the calls
before it. -/
theorem follows_treeCalls {parent : Option Nat} {k : Nat} {t : ParseTree}
    (h : a.Holds parent k t) {s : σ}
    (hkept : ∀ c ∈ treeCalls a.source version hook parent k t s, kept c.index = c.kept) :
    ∀ c ∈ treeCalls a.source version hook parent k t s, c.Follows a version hook kept := by
  match t with
  | .node info children =>
    obtain ⟨he, hchildren⟩ := Arena.holds_node.1 h
    intro c hc
    cases hm : info.isMissing with
    | true =>
      rw [treeCalls_of_isMissing hm, List.mem_singleton] at hc
      subst hc
      refine ⟨_, s, he, (itemsFrom_of_isMissing (by exact hm) _).symm, ?_⟩
      rw [treeItems_of_isMissing hm]
    | false =>
      rw [treeCalls_of_not_isMissing hm] at hkept hc
      have hbelow : ∀ c ∈ forestCalls a.source version hook k (k + 1) children s,
          kept c.index = c.kept :=
        fun c hc => hkept c (List.mem_append_left _ hc)
      rcases List.mem_append.1 hc with hc | hc
      · exact follows_forestCalls hchildren hbelow c hc
      · obtain rfl := List.mem_singleton.1 hc
        refine ⟨_, (forestItems a.source version hook k (k + 1) children s).2, he, ?_, ?_⟩
        · rw [Entity.ofTree_children, ParseTree.children_node, flatMap_kept hbelow]
        · rw [treeItems_of_not_isMissing hm]

theorem follows_forestCalls {parent next : Nat} {ts : List ParseTree}
    (h : a.HoldsList parent next ts) {s : σ}
    (hkept : ∀ c ∈ forestCalls a.source version hook parent next ts s, kept c.index = c.kept) :
    ∀ c ∈ forestCalls a.source version hook parent next ts s,
      c.Follows a version hook kept := by
  match ts with
  | [] => simp
  | t :: ts =>
    obtain ⟨ht, hts⟩ := Arena.holdsList_cons.1 h
    rw [forestCalls_cons] at hkept ⊢
    intro c hc
    rcases List.mem_append.1 hc with hc | hc
    · exact follows_treeCalls ht (fun c hc => hkept c (List.mem_append_left _ hc)) c hc
    · exact follows_forestCalls hts (fun c hc => hkept c (List.mem_append_right _ hc)) c hc

end

end Given

/-- The calls of a hook during a walk over an arena are made in post-order. -/
structure PostOrder {σ : Type} (a : Arena) (version : Int) (hook : Finish σ)
    (calls : List Call) : Prop where
  order : (calls.map Call.index).Pairwise a.FinishesBefore
  /-- There is a call for every entity that is not below a missing one, and for no other. -/
  mem_iff : ∀ i, i ∈ calls.map Call.index ↔ i < a.size ∧ isCut a i = false
  follows : ∀ c ∈ calls, c.Follows a version hook (keptFor calls)

/-- There is something below a missing entity exactly if one has children. -/
theorem forall_isCut_eq_false_iff (d : Document) :
    (∀ i < (Arena.ofDocument d).size, isCut (Arena.ofDocument d) i = false) ↔
      ∀ e ∈ (Arena.ofDocument d).entities.toList, e.isMissing = true → e.children = [] := by
  constructor
  · intro hopen e he hm
    rw [List.eq_nil_iff_forall_not_mem]
    intro c hc
    have hentity := Arena.entity?_of_mem d he
    have hparent := (Arena.isChild_iff d).1 ⟨e, hentity, hc⟩
    have hancestor : e.index ∈ (Arena.ofDocument d).ancestors c := by
      simp [Arena.ancestors_of_parent?_eq_some hparent]
    obtain ⟨child, hchild, _⟩ := Option.bind_eq_some_iff.1 hparent
    have hcut := hopen c (Arena.lt_size_of_entity? hchild)
    rw [isCut_of_mem_ancestors hancestor hentity hm] at hcut
    contradiction
  · intro hleaf i hi
    rw [Bool.eq_false_iff]
    intro hcut
    obtain ⟨j, hj, hmissing⟩ := List.any_eq_true.1 hcut
    obtain ⟨e, he, hm⟩ := (Option.any_eq_true _ _).1 hmissing
    have hchildren := hleaf e (Arena.mem_entities_of_entity? he) hm
    obtain ⟨p, t, ht, _, hlt⟩ := Arena.exists_of_mem_ancestors d hi hj
    obtain rfl : e = Entity.ofTree d.source p j t :=
      Option.some.inj (he.symm.trans ht.entity?_eq)
    have hnone : t.children = [] := by
      rw [← List.length_eq_zero_iff, ← ParseTree.length_positions (j + 1)]
      exact List.length_eq_zero_iff.2 hchildren
    have hij := Arena.lt_of_mem_ancestors hj
    rw [t.size_eq, hnone, ParseTree.sizes_nil] at hlt
    omega

theorem PostOrder.nodup {σ : Type} {a : Arena} {version : Int} {hook : Finish σ}
    {calls : List Call} (h : PostOrder a version hook calls) :
    (calls.map Call.index).Nodup :=
  h.order.imp Arena.FinishesBefore.ne

theorem count_index_iff {σ : Type} {d : Document} {version : Int} {hook : Finish σ}
    {calls : List Call} (h : PostOrder (Arena.ofDocument d) version hook calls) :
    (∀ i < (Arena.ofDocument d).size, (calls.map Call.index).count i = 1) ↔
      ∀ e ∈ (Arena.ofDocument d).entities.toList, e.isMissing = true → e.children = [] := by
  rw [← forall_isCut_eq_false_iff]
  refine forall₂_congr fun i hi => ?_
  rw [h.nodup.count]
  simp only [h.mem_iff i, hi, true_and, ite_eq_left_iff, Nat.zero_ne_one, imp_false, not_not]

/-- What the calls for a document are. -/
theorem postOrder_treeCalls {σ : Type} (d : Document) (version : Int) (hook : Finish σ) (s : σ) :
    PostOrder (Arena.ofDocument d) version hook
      (treeCalls d.source version hook none 0 d.tree s) where
  order := by
    rw [map_index_treeCalls]
    exact pairwise_treeFinished (Arena.holds_ofDocument d)
  mem_iff i := by
    rw [map_index_treeCalls, ← finished_ofDocument d version, mem_finished]
  follows := by
    have hnodup : ((treeCalls d.source version hook none 0 d.tree s).map Call.index).Nodup := by
      rw [map_index_treeCalls]
      exact nodup_treeFinished (Arena.holds_ofDocument d)
    exact follows_treeCalls (Arena.holds_ofDocument d) fun c hc => keptFor_of_mem hnodup hc

/-- What the items of the root of a parse make up: their node, if they are just one node, and
otherwise a list of statements with the extent of the root. -/
inductive IsRootOf (info : ParseInfo) : List Item → Node → Prop
  | single (n : Node) : IsRootOf info [n.toItem] n
  | wrapped (items : List Item) (h : ∀ n : Node, items ≠ [n.toItem]) :
    IsRootOf info items ⟨⟨"AST_STMT_LIST", info.row + 1, info.start, info.stop, false⟩, items⟩

theorem isRootOf_rootNode (info : ParseInfo) (items : List Item) :
    IsRootOf info items (rootNode info items) := by
  rw [rootNode]
  cases hsingle : singleNode? items with
  | some n =>
    obtain rfl := singleNode?_eq_some_iff.1 hsingle
    exact .single n
  | none =>
    refine .wrapped items fun n hn => ?_
    rw [singleNode?_eq_some_iff.2 hn] at hsingle
    contradiction

section IsRootOf

variable {info : ParseInfo} {m n : Node} {items : List Item}

theorem IsRootOf.eq_of_single (h : IsRootOf info [m.toItem] n) : n = m := by
  generalize hitems : [m.toItem] = items at h
  cases h with
  | single => exact (Option.some.inj (congrArg singleNode? hitems)).symm
  | wrapped _ hnot => exact absurd hitems.symm (hnot m)

theorem IsRootOf.eq_of_ne (h : IsRootOf info items n) (hnot : ∀ m : Node, items ≠ [m.toItem]) :
    n = ⟨⟨"AST_STMT_LIST", info.row + 1, info.start, info.stop, false⟩, items⟩ := by
  cases h with
  | single => exact absurd rfl (hnot n)
  | wrapped => rfl

end IsRootOf

/-- The walk over the arena of a document never fails, and it does not matter whether results
wait on a stack or in a table. The hook is called in post-order, once for each entity that is
not below a missing one. It is given what is made of the items that it gave back for the
children, and those that it gave back for the root make up the tree. If it hands on what it is
given, they are those of the recursion on the parse tree. Hence every entity is finished exactly
once just if no missing entity has children. -/
theorem build_in_postOrder {σ : Type} (d : Document) (version : Int) (hook : Finish σ) (s : σ) :
    let a := Arena.ofDocument d
    ∃ b calls, build? a version hook s = some b ∧ buildPending? a version hook s = some b ∧
      build? a version (noting hook) (s, []) =
        some ⟨b.tree, b.diagnostics, (b.state, calls)⟩ ∧
      PostOrder a version hook calls ∧
      IsRootOf d.tree.info (keptFor calls 0) b.tree ∧
      (HandsOn hook → keptFor calls 0 = converted d.source version true d.tree ∧
        ∀ c ∈ calls, c.kept = c.given) ∧
      ((∀ i < a.size, (calls.map Call.index).count i = 1) ↔
        ∀ e ∈ a.entities.toList, e.isMissing = true → e.children = []) := by
  intro a
  have hpost := postOrder_treeCalls d version hook s
  obtain ⟨c, hc, hindex, hitems⟩ := exists_mem_treeCalls d.source version hook none 0 d.tree s
  have hroot := keptFor_of_mem hpost.nodup hc
  rw [hindex, hitems] at hroot
  refine ⟨_, _, build?_ofDocument d version hook s, ?_, ?_, hpost, ?_, ?_, count_index_iff hpost⟩
  · rw [buildPending?_eq, build?_ofDocument]
  · rw [build?_ofDocument, treeItems_noting, List.nil_append]
  · rw [hroot]
    exact isRootOf_rootNode _ _
  · intro hhook
    refine ⟨?_, ?_⟩
    · rw [hroot, treeItems_eq_converted _ _ hhook]
      rfl
    · intro c hc
      obtain ⟨e, s', _, _, hkept⟩ := hpost.follows c hc
      rw [hkept, hhook]

/-- The parse of a statement without a list of statements around it: `$a` and a number. -/
def bareStatement : Document :=
  let token (kind : String) (start stop : Nat) (isNamed : Bool) : ParseTree :=
    .node ⟨kind, start, stop, 0, start, isNamed, false⟩ []
  let name : ParseTree := .node ⟨"variable_name", 0, 2, 0, 0, true, false⟩
    [token "$" 0 1 false, token "name" 1 2 true]
  { source := [36, 97, 49]
    tree := .node ⟨"expression_statement", 0, 3, 0, 0, true, false⟩
      [name, token "integer" 2 3 true]
    hasError := false }

/-- The root of the first statement gives one node, which is the tree; the items that the root of
the second one gives are wrapped. Nothing is below the missing name in the first one, so each of its
entities is finished once. -/
theorem build_faultyStatement_in_postOrder :
    HandsOn keep ∧
      (∃ b calls, build? (Arena.ofDocument faultyStatement) 100 keep () = some b ∧
        PostOrder (Arena.ofDocument faultyStatement) 100 keep calls ∧
        IsRootOf faultyStatement.tree.info (keptFor calls 0) b.tree ∧
        keptFor calls 0 = [b.tree.toItem] ∧
        b.tree = ⟨⟨"AST_STMT_LIST", 1, 0, 8, false⟩,
          [.node ⟨"AST_PROP", 1, 0, 5, false⟩
            [.node ⟨"AST_VAR", 1, 0, 2, false⟩ [.scalar (.text "a")]],
            .node ⟨"ERROR", 1, 5, 6, false⟩ [], .node ⟨"ERROR", 1, 6, 7, false⟩ []]⟩ ∧
        ∀ i < (Arena.ofDocument faultyStatement).size, (calls.map Call.index).count i = 1) ∧
      ∃ b calls, build? (Arena.ofDocument bareStatement) 100 keep () = some b ∧
        PostOrder (Arena.ofDocument bareStatement) 100 keep calls ∧
        IsRootOf bareStatement.tree.info (keptFor calls 0) b.tree ∧
        keptFor calls 0 =
          [.node ⟨"AST_VAR", 1, 0, 2, false⟩ [.scalar (.text "a")], .scalar (.int 1)] ∧
        b.tree = ⟨⟨"AST_STMT_LIST", 1, 0, 3, false⟩, keptFor calls 0⟩ := by
  refine ⟨handsOn_keep, ?_, ?_⟩
  · obtain ⟨b, calls, hb, _, _, hpost, hroot, hplain, honce⟩ :=
      build_in_postOrder faultyStatement 100 keep ()
    have hkept := (hplain handsOn_keep).1
    have hitems : converted faultyStatement.source 100 true faultyStatement.tree =
        [(⟨⟨"AST_STMT_LIST", 1, 0, 8, false⟩,
          [.node ⟨"AST_PROP", 1, 0, 5, false⟩
            [.node ⟨"AST_VAR", 1, 0, 2, false⟩ [.scalar (.text "a")]],
            .node ⟨"ERROR", 1, 5, 6, false⟩ [], .node ⟨"ERROR", 1, 6, 7, false⟩ []]⟩ :
              Node).toItem] := by
      with_unfolding_all rfl
    rw [hitems] at hkept
    have htree := IsRootOf.eq_of_single (hkept ▸ hroot)
    exact ⟨b, calls, hb, hpost, hroot, by rw [hkept, htree], htree, honce.2 (by decide)⟩
  · obtain ⟨b, calls, hb, _, _, hpost, hroot, hplain, -⟩ :=
      build_in_postOrder bareStatement 100 keep ()
    have hkept := (hplain handsOn_keep).1
    have hitems : converted bareStatement.source 100 true bareStatement.tree =
        [.node ⟨"AST_VAR", 1, 0, 2, false⟩ [.scalar (.text "a")], .scalar (.int 1)] := by
      with_unfolding_all rfl
    rw [hitems] at hkept
    have htree := hroot.eq_of_ne (by simp [hkept])
    exact ⟨b, calls, hb, hpost, hroot, hkept, htree⟩

end SyntaxCursor.Conversion
