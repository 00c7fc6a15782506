import Mathlib.Data.List.Find
import SyntaxCursor.Concrete.Locate
import SyntaxCursor.Proofs.Placement

/-!
# What the search for a cursor finds

The search keeps a stack of nodes with the children that are still to be looked at, and passes
over a node that does not end past the offset. `seekTree` is the same search by recursion on
the parse tree. It finds the first token that ends past the offset together with all nodes
around it, the root apart (`search_ofDocument`). Passing over nodes loses nothing if no token
ends past a node around it; the policy only says what the found token stands for.
-/
namespace SyntaxCursor.Concrete

/-- The entity that a token stands for: the node that it hangs under, or itself. -/
def SelectionPolicy.standsFor {π : Type} [SelectionPolicy π] (policy : π) (t : Entity) :
    Option Nat :=
  if SelectionPolicy.promotes policy t then t.parent else some t.index

namespace Arena

def tokens (a : Arena) : List Entity := a.entities.toList.filter (·.isToken)

def endsPast (a : Arena) (offset : Int) (i : Nat) : Bool :=
  (a.entity? i).any fun e => decide (offset < e.stop)

/-- Whether all nodes that enclose an entity end past an offset, the root apart. -/
def isOpen (a : Arena) (offset : Int) (i : Nat) : Bool :=
  (a.ancestors i).all fun p => p == 0 || a.endsPast offset p

def firstToken? (a : Arena) (offset : Int) : Option Entity :=
  a.tokens.find? fun t => decide (offset < t.stop)

/-- The first token that ends past an offset together with the nodes that enclose it, the root
apart. -/
def firstOpenToken? (a : Arena) (offset : Int) : Option Entity :=
  a.tokens.find? fun t => decide (offset < t.stop) && a.isOpen offset t.index

/-- No token ends past a node that encloses it, the root apart. -/
def TokensNested (a : Arena) : Prop :=
  ∀ t ∈ a.tokens, ∀ p ∈ a.ancestors t.index, p ≠ 0 → ∀ q ∈ a.entity? p, t.stop ≤ q.stop

/-- No entity ends past the one that it hangs under. -/
def SpansNested (a : Arena) : Prop :=
  ∀ e ∈ a.entities.toList, ∀ p ∈ e.parent, ∀ q ∈ a.entity? p, e.stop ≤ q.stop

end Arena

mutual

/-- The first token of a tree that the search comes to, and the node that it hangs under. -/
def seekTree (offset : Int) (owner k : Nat) : ParseTree → Option (Nat × Nat)
  | .node info children =>
    if offset < info.stop then
      if children.isEmpty then some (k, owner) else seekForest offset k (k + 1) children
    else none

/-- The first token of the trees under one node that the search comes to. -/
def seekForest (offset : Int) (owner next : Nat) : List ParseTree → Option (Nat × Nat)
  | [] => none
  | t :: ts => (seekTree offset owner next t).or (seekForest offset owner (next + t.size) ts)

end

section Equations

variable {offset : Int} {owner k : Nat} {info : ParseInfo} {children : List ParseTree}

theorem seekTree_of_not_lt (h : ¬offset < info.stop) :
    seekTree offset owner k (.node info children) = none := by
  rw [seekTree, if_neg h]

theorem seekTree_leaf (h : offset < info.stop) :
    seekTree offset owner k (.node info []) = some (k, owner) := by
  rw [seekTree, if_pos h]
  rfl

theorem seekTree_cons {t : ParseTree} {ts : List ParseTree} (h : offset < info.stop) :
    seekTree offset owner k (.node info (t :: ts)) =
      seekForest offset k (k + 1) (t :: ts) := by
  rw [seekTree, if_pos h, if_neg (by simp)]

@[simp] theorem seekForest_nil {next : Nat} : seekForest offset owner next [] = none := by
  rw [seekForest]

theorem seekForest_cons {next : Nat} {t : ParseTree} {ts : List ParseTree} :
    seekForest offset owner next (t :: ts) =
      (seekTree offset owner next t).or (seekForest offset owner (next + t.size) ts) := by
  rw [seekForest]

end Equations

namespace Arena

section Search

variable {a : Arena} (offset : Int)

@[simp] theorem searchFrom_nil (fuel : Nat) : a.searchFrom offset fuel [] = none := by
  cases fuel <;> rfl

theorem searchFrom_done (fuel owner : Nat) (stack : List (Nat × List Nat)) :
    a.searchFrom offset (fuel + 1) ((owner, []) :: stack) = a.searchFrom offset fuel stack :=
  rfl

theorem searchFrom_child {c : Nat} {child : Entity} (hc : a.entity? c = some child)
    (fuel owner : Nat) (rest : List Nat) (stack : List (Nat × List Nat)) :
    a.searchFrom offset (fuel + 1) ((owner, c :: rest) :: stack) =
      if offset < child.stop then
        if child.isToken then some (c, owner)
        else a.searchFrom offset fuel ((c, child.children) :: (owner, rest) :: stack)
      else a.searchFrom offset fuel ((owner, rest) :: stack) := by
  simp [searchFrom, hc]

mutual

/-- Looking at a child comes down to the recursion on its tree, and goes on with what is left
on the stack if that finds nothing. -/
theorem searchFrom_tree {owner k : Nat} {t : ParseTree} (h : a.Holds (some owner) k t) :
    ∃ n, n ≤ 2 * t.size ∧ ∀ fuel rest stack,
      a.searchFrom offset (fuel + n) ((owner, k :: rest) :: stack) =
        (seekTree offset owner k t).or (a.searchFrom offset fuel ((owner, rest) :: stack)) := by
  match t with
  | .node info children =>
    obtain ⟨he, hchildren⟩ := holds_node.1 h
    rw [ParseTree.size_node]
    by_cases hpast : offset < info.stop
    · cases children with
      | nil =>
        refine ⟨1, by omega, ?_⟩
        intro fuel rest stack
        rw [searchFrom_child offset he, seekTree_leaf hpast]
        simp [hpast]
      | cons t ts =>
        obtain ⟨n, hn, hforest⟩ := searchFrom_forest hchildren
        refine ⟨n + 2, by omega, ?_⟩
        intro fuel rest stack
        have hfuel : fuel + (n + 2) = fuel + 1 + n + 1 := by omega
        have hrun := hforest (fuel + 1) [] ((owner, rest) :: stack)
        rw [List.append_nil, searchFrom_done] at hrun
        rw [hfuel, searchFrom_child offset he, seekTree_cons hpast, ← hrun]
        simp [hpast]
    · refine ⟨1, by omega, ?_⟩
      intro fuel rest stack
      rw [searchFrom_child offset he, seekTree_of_not_lt hpast, Option.none_or]
      exact if_neg hpast

theorem searchFrom_forest {owner next : Nat} {ts : List ParseTree}
    (h : a.HoldsList owner next ts) :
    ∃ n, n ≤ 2 * ParseTree.sizes ts ∧ ∀ fuel rest stack,
      a.searchFrom offset (fuel + n)
          ((owner, ParseTree.positions next ts ++ rest) :: stack) =
        (seekForest offset owner next ts).or
          (a.searchFrom offset fuel ((owner, rest) :: stack)) := by
  match ts with
  | [] => exact ⟨0, by simp, by simp [ParseTree.positions]⟩
  | t :: ts =>
    obtain ⟨ht, hts⟩ := holdsList_cons.1 h
    obtain ⟨n, hn, htree⟩ := searchFrom_tree ht
    obtain ⟨m, hm, hforest⟩ := searchFrom_forest hts
    refine ⟨m + n, by rw [ParseTree.sizes_cons]; omega, ?_⟩
    intro fuel rest stack
    rw [ParseTree.positions, List.cons_append, ← Nat.add_assoc, htree, hforest,
      seekForest_cons, Option.or_assoc]

end

end Search

theorem search_ofDocument (d : Document) (offset : Int) :
    (ofDocument d).search offset = seekForest offset 0 1 d.tree.children := by
  obtain ⟨n, hn, hforest⟩ := searchFrom_forest offset (holds_ofDocument d).children
  have hsize : 2 * (ofDocument d).size = 2 * (ofDocument d).size - n - 1 + 1 + n := by
    have htree : d.tree.size = ParseTree.sizes d.tree.children + 1 := by
      cases d.tree
      simp
    rw [size_ofDocument]
    omega
  have hrun := hforest (2 * (ofDocument d).size - n - 1 + 1) [] []
  rw [List.append_nil, searchFrom_done, searchFrom_nil, Option.or_none] at hrun
  rw [search, root_ofDocument, hsize]
  exact hrun

section Seek

variable {a : Arena} (offset : Int)

/-- Whether an entity is a token that the search stops at. -/
def stopsAt (a : Arena) (offset : Int) (e : Entity) : Bool :=
  e.isToken && (decide (offset < e.stop) && a.isOpen offset e.index)

theorem firstOpenToken?_eq (a : Arena) (offset : Int) :
    a.firstOpenToken? offset = a.entities.toList.find? (a.stopsAt offset) := by
  rw [firstOpenToken?, tokens, List.find?_filter]
  congr 1
  funext e
  simp [stopsAt]

theorem isOpen_of_parent? {i p : Nat} (h : a.parent? i = some p) :
    a.isOpen offset i = ((p == 0 || a.endsPast offset p) && a.isOpen offset p) := by
  rw [isOpen, ancestors_of_parent?_eq_some h, List.all_cons, isOpen]

theorem isOpen_eq_false {i p : Nat} (hp : p ∈ a.ancestors i) (hzero : p ≠ 0)
    (hend : a.endsPast offset p = false) : a.isOpen offset i = false := by
  rw [isOpen, List.all_eq_false]
  exact ⟨p, hp, by simp [hzero, hend]⟩

mutual

/-- Below an open root the recursion finds the first token that the search stops at. -/
theorem seekTree_eq {owner k : Nat} {t : ParseTree} (h : a.Holds (some owner) k t)
    (hopen : a.isOpen offset k = true) :
    seekTree offset owner k t =
      ((t.entities a.source (some owner) k).find? (a.stopsAt offset)).map
        fun e => (e.index, e.parent.getD 0) := by
  match t with
  | .node info children =>
    have hzero : k ≠ 0 := by
      have := parent?_lt h.parent?_eq
      omega
    obtain ⟨he, hchildren⟩ := holds_node.1 h
    have hend : a.endsPast offset k = decide (offset < info.stop) := by
      rw [endsPast, he]
      rfl
    rw [ParseTree.entities_node, List.find?_cons]
    by_cases hpast : offset < info.stop
    · cases children with
      | nil =>
        have hroot : a.stopsAt offset (Entity.ofTree a.source (some owner) k (.node info [])) =
            true := by
          simp [stopsAt, hopen, hpast]
        rw [seekTree_leaf hpast, hroot]
        rfl
      | cons t ts =>
        have hroot : a.stopsAt offset
            (Entity.ofTree a.source (some owner) k (.node info (t :: ts))) = false := by
          simp [stopsAt]
        have hbelow : ∀ c, a.parent? c = some k → a.isOpen offset c = true := by
          intro c hc
          rw [isOpen_of_parent? offset hc]
          simp [hend, hpast, hopen]
        rw [seekTree_cons hpast, hroot, seekForest_eq hchildren hbelow]
    · have hnone : ∀ e ∈ ParseTree.entitiesList a.source k (k + 1) children,
          a.stopsAt offset e = false := by
        intro e hmem
        have hindex := ParseTree.index_of_mem_entitiesList hmem
        have hancestor : k ∈ a.ancestors e.index :=
          h.mem_ancestors (by omega) (by rw [ParseTree.size_node]; omega)
        simp [stopsAt, isOpen_eq_false offset hancestor hzero (by simp [hend, hpast])]
      have hroot : a.stopsAt offset (Entity.ofTree a.source (some owner) k
          (.node info children)) = false := by
        simp [stopsAt, hpast]
      rw [seekTree_of_not_lt hpast, hroot, List.find?_eq_none.2 (by simpa using hnone)]
      rfl

theorem seekForest_eq {parent next : Nat} {ts : List ParseTree}
    (h : a.HoldsList parent next ts)
    (hopen : ∀ c, a.parent? c = some parent → a.isOpen offset c = true) :
    seekForest offset parent next ts =
      ((ParseTree.entitiesList a.source parent next ts).find? (a.stopsAt offset)).map
        fun e => (e.index, e.parent.getD 0) := by
  match ts with
  | [] => simp
  | t :: ts =>
    obtain ⟨ht, hts⟩ := holdsList_cons.1 h
    rw [seekForest_cons, seekTree_eq ht (hopen next ht.parent?_eq), seekForest_eq hts hopen,
      ParseTree.entitiesList_cons, List.find?_append, Option.map_or]

end

end Seek

/-- The search finds the first open token, together with the node that it hangs under. -/
theorem search_eq (d : Document) (offset : Int) :
    (ofDocument d).search offset =
      ((ofDocument d).firstOpenToken? offset).map fun e => (e.index, e.parent.getD 0) := by
  have hroot : (ofDocument d).stopsAt offset (Entity.ofTree d.source none 0 d.tree) = false := by
    simp [stopsAt]
  have hbelow : ∀ c, (ofDocument d).parent? c = some 0 →
      (ofDocument d).isOpen offset c = true := by
    intro c hc
    rw [isOpen_of_parent? offset hc, isOpen, ancestors_zero]
    rfl
  have hseek := seekForest_eq offset (holds_ofDocument d).children hbelow
  rw [search_ofDocument, firstOpenToken?_eq, entities_ofDocument, hseek]
  cases htree : d.tree with
  | node info children =>
    rw [htree] at hroot
    rw [ParseTree.entities_node, List.find?_cons, hroot]
    rfl

/-- A token of a document hangs under some node. -/
theorem exists_parent_of_isToken {d : Document} {e : Entity}
    (he : e ∈ (ofDocument d).entities.toList) (htoken : e.isToken = true) :
    ∃ p, e.parent = some p := by
  obtain ⟨p, s, _, heq⟩ := exists_eq_ofTree d (entity?_of_mem d he)
  cases p with
  | none =>
    rw [heq] at htoken
    simp at htoken
  | some p => exact ⟨p, congrArg Entity.parent heq⟩

theorem locate_eq {π : Type} [SelectionPolicy π] (d : Document) (policy : π) (offset : Int) :
    (ofDocument d).locate policy offset =
      ((ofDocument d).firstOpenToken? offset).bind (SelectionPolicy.standsFor policy) := by
  rw [locate, search_eq]
  cases hfirst : (ofDocument d).firstOpenToken? offset with
  | none => rfl
  | some t =>
    rw [firstOpenToken?_eq] at hfirst
    have hmem := List.mem_of_find?_eq_some hfirst
    have hstops := List.find?_some hfirst
    rw [stopsAt, Bool.and_eq_true] at hstops
    obtain ⟨p, hp⟩ := exists_parent_of_isToken hmem hstops.1
    by_cases hpromoted : SelectionPolicy.promotes policy t = true
    · simp [entity?_of_mem d hmem, SelectionPolicy.standsFor, hpromoted, hp]
    · simp [entity?_of_mem d hmem, SelectionPolicy.standsFor, hpromoted]

section Located

variable {π : Type} [SelectionPolicy π] {d : Document} {policy : π} {offset : Int} {t : Entity}

theorem mem_of_firstOpenToken? (h : (ofDocument d).firstOpenToken? offset = some t) :
    t ∈ (ofDocument d).entities.toList ∧ t.isToken = true := by
  have hmem := List.mem_of_find?_eq_some h
  exact List.mem_filter.1 hmem

/-- A located entity is the found token, or the node that the token hangs under. -/
theorem cases_of_locate {i : Nat} (h : (ofDocument d).locate policy offset = some i) :
    ∃ t, (ofDocument d).firstOpenToken? offset = some t ∧
      (SelectionPolicy.promotes policy t = true ∧ i ∈ (ofDocument d).ancestors t.index ∨
        SelectionPolicy.promotes policy t = false ∧ i = t.index) := by
  rw [locate_eq, Option.bind_eq_some_iff] at h
  obtain ⟨t, hfirst, hstands⟩ := h
  obtain ⟨hmem, htoken⟩ := mem_of_firstOpenToken? hfirst
  refine ⟨t, hfirst, ?_⟩
  cases hpromoted : SelectionPolicy.promotes policy t with
  | true =>
    rw [SelectionPolicy.standsFor, if_pos hpromoted] at hstands
    have hparent : (ofDocument d).parent? t.index = some i := by
      rw [parent?, entity?_of_mem d hmem]
      exact hstands
    rw [ancestors_of_parent?_eq_some hparent]
    simp
  | false =>
    rw [SelectionPolicy.standsFor, if_neg (by simp [hpromoted]), Option.some.injEq] at hstands
    exact Or.inr ⟨rfl, hstands.symm⟩

theorem locate_lt {i : Nat} (h : (ofDocument d).locate policy offset = some i) :
    i < (ofDocument d).size := by
  obtain ⟨t, hfirst, hcases⟩ := cases_of_locate h
  have ht := lt_size_of_entity? (entity?_of_mem d (mem_of_firstOpenToken? hfirst).1)
  rcases hcases with ⟨_, hi⟩ | ⟨_, rfl⟩
  · exact Nat.lt_trans (lt_of_mem_ancestors hi) ht
  · exact ht

theorem not_promotes_of_locate {i : Nat} (h : (ofDocument d).locate policy offset = some i)
    {e : Entity} (he : (ofDocument d).entity? i = some e) (htoken : e.isToken = true) :
    SelectionPolicy.promotes policy e = false := by
  obtain ⟨t, hfirst, hcases⟩ := cases_of_locate h
  have ht := entity?_of_mem d (mem_of_firstOpenToken? hfirst).1
  rcases hcases with ⟨_, hi⟩ | ⟨hpromoted, rfl⟩
  · have hnode := isToken_eq_false_of_mem_ancestors d (lt_size_of_entity? ht) hi he
    rw [hnode] at htoken
    contradiction
  · rw [ht, Option.some.injEq] at he
    rw [← he, hpromoted]

/-- If tokens are nested, a token that ends past an offset is open there. -/
theorem isOpen_of_tokensNested (hnested : (ofDocument d).TokensNested)
    (ht : t ∈ (ofDocument d).tokens) (hpast : offset < t.stop) :
    (ofDocument d).isOpen offset t.index = true := by
  rw [isOpen, List.all_eq_true]
  intro p hp
  have hmem := entity?_of_mem d (List.mem_filter.1 ht).1
  obtain ⟨q, hq⟩ := exists_entity? d
    (Nat.lt_trans (lt_of_mem_ancestors hp) (lt_size_of_entity? hmem))
  by_cases hzero : p = 0
  · simp [hzero]
  · have hle := hnested t ht p hp hzero q hq
    have hend : offset < q.stop := by omega
    simp [endsPast, hq, hend]

theorem firstOpenToken?_of_tokensNested (hnested : (ofDocument d).TokensNested) :
    (ofDocument d).firstOpenToken? offset = (ofDocument d).firstToken? offset := by
  refine List.find?_congr ?_
  intro t ht
  by_cases hpast : offset < t.stop
  · simp [hpast, isOpen_of_tokensNested hnested ht hpast]
  · simp [hpast]

/-- If spans are nested, nothing ends past what encloses it. -/
theorem stop_le_of_mem_ancestors {a : Arena} (hspans : a.SpansNested) {i j : Nat}
    (hj : j ∈ a.ancestors i) {e q : Entity} (he : a.entity? i = some e)
    (hq : a.entity? j = some q) : e.stop ≤ q.stop := by
  induction i using Nat.strongRecOn generalizing e with
  | ind i ih =>
    cases hp : a.parent? i with
    | none => simp [ancestors_of_parent?_eq_none hp] at hj
    | some p =>
      have hlt := parent?_lt hp
      have hmem := mem_entities_of_entity? he
      have hparent : e.parent = some p := by simpa [parent?, he] using hp
      rw [ancestors_of_parent?_eq_some hp] at hj
      rcases List.mem_cons.1 hj with rfl | hj
      · exact hspans e hmem j hparent q hq
      · have hpsize : p < a.size := Nat.lt_trans hlt (lt_size_of_entity? he)
        have hpe : a.entity? p = some a.entities[p] := Array.getElem?_eq_getElem hpsize
        exact Nat.le_trans (hspans e hmem p hparent _ hpe) (ih p hlt hj hpe)

theorem tokensNested_of_spansNested (hspans : (ofDocument d).SpansNested) :
    (ofDocument d).TokensNested := by
  intro t ht p hp _ q hq
  exact stop_le_of_mem_ancestors hspans hp
    (entity?_of_mem d (List.mem_filter.1 ht).1) hq

end Located

/-- Locating is exact: what is located is the first open token in pre-order, or the node that a
promoted one hangs under, and nothing only if there is no such token. Hence the policy has no
say in which token is found, and no promoted token is ever located. If no token ends past a
node around it, passing over nodes loses nothing: the found token is the first one in the whole
document that ends past the offset. -/
theorem locate_exact {π : Type} [SelectionPolicy π] (d : Document) (policy : π) (offset : Int) :
    (match (ofDocument d).firstOpenToken? offset with
      | none => (ofDocument d).locate policy offset = none
      | some t => ∃ p, t.parent = some p ∧ (ofDocument d).locate policy offset =
          some (if SelectionPolicy.promotes policy t then p else t.index)) ∧
    (∀ i e, (ofDocument d).locate policy offset = some i → (ofDocument d).entity? i = some e →
      e.isToken = true → SelectionPolicy.promotes policy e = false) ∧
    ((ofDocument d).TokensNested →
      (ofDocument d).locate policy offset =
        ((ofDocument d).firstToken? offset).bind (SelectionPolicy.standsFor policy)) := by
  refine ⟨?_, fun i e h he => not_promotes_of_locate h he, ?_⟩
  · rw [locate_eq]
    cases hfirst : (ofDocument d).firstOpenToken? offset with
    | none => rfl
    | some t =>
      obtain ⟨hmem, htoken⟩ := mem_of_firstOpenToken? hfirst
      obtain ⟨p, hp⟩ := exists_parent_of_isToken hmem htoken
      refine ⟨p, hp, ?_⟩
      by_cases hpromoted : SelectionPolicy.promotes policy t = true
      · simp [SelectionPolicy.standsFor, hpromoted, hp]
      · simp [SelectionPolicy.standsFor, hpromoted]
  · intro hnested
    rw [locate_eq, firstOpenToken?_of_tokensNested hnested]

end Arena

/-- The parse of the statement `$a->b;`. -/
def propertyStatement : Document :=
  let token (kind : String) (start stop : Nat) (isNamed : Bool) : ParseTree :=
    .node ⟨kind, start, stop, 0, start, isNamed, false⟩ []
  let inner (kind : String) (start stop : Nat) (children : List ParseTree) : ParseTree :=
    .node ⟨kind, start, stop, 0, start, true, false⟩ children
  let name := inner "variable_name" 0 2 [token "$" 0 1 false, token "name" 1 2 true]
  let access := inner "member_access_expression" 0 5
    [name, token "->" 2 4 false, token "name" 4 5 true]
  { source := [36, 97, 45, 62, 98, 59]
    tree := inner "program" 0 6
      [inner "expression_statement" 0 6 [access, token ";" 5 6 false]]
    hasError := false }

theorem spansNested_propertyStatement : (Arena.ofDocument propertyStatement).SpansNested := by
  unfold Arena.SpansNested
  decide

/-- At the name of the property its access is located, and passing over nodes loses nothing. -/
theorem locate_propertyStatement :
    (Arena.ofDocument propertyStatement).TokensNested ∧
      (Arena.ofDocument propertyStatement).locate .standard 4 = some 2 ∧
      ((Arena.ofDocument propertyStatement).firstToken? 4).bind
        (SelectionPolicy.standsFor NamePolicy.standard) = some 2 := by
  have hnested := Arena.tokensNested_of_spansNested spansNested_propertyStatement
  have hexact := (Arena.locate_exact propertyStatement .standard 4).2.2 hnested
  exact ⟨hnested, rfl, hexact.symm⟩

end SyntaxCursor.Concrete
