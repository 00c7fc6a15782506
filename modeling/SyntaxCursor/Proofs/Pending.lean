import Mathlib.Logic.Function.Basic
import SyntaxCursor.Proofs.Encoding
import SyntaxCursor.Proofs.TreeWalk

/-!
# The walk with a table of pending results

The results that wait for the node they hang under may also be kept in a table, each under the
number of its entity. Leaving a node then takes the results of its children out of the table
one by one, and the walk fails if one of them is not there. That never happens: when a tree is
entered, nothing below its root is in the table, and when it is left, its root has come in and
nothing else. So the walk gives what the recursion on the tree gives (`walkPending?_tree`), as
does the one with a stack of results (`buildPending?_eq`).
-/
namespace SyntaxCursor.Conversion

open Abstract Concrete

abbrev Pending := Nat → Option (List Item)

namespace Pending

/-- Put a result under a number, in the place of what stands there. -/
def put (pending : Pending) (i : Nat) (items : List Item) : Pending :=
  Function.update pending i (some items)

def remove (pending : Pending) (i : Nat) : Pending := Function.update pending i none

/-- Take the results under these numbers out, joined in this order. -/
def takeAll? : List Nat → Pending → Option (List Item × Pending)
  | [], pending => some ([], pending)
  | i :: is, pending =>
    (pending i).bind fun items =>
      (takeAll? is (pending.remove i)).map fun (rest, pending) => (items ++ rest, pending)

@[simp] theorem put_same (pending : Pending) (i : Nat) (items : List Item) :
    pending.put i items i = some items := by
  rw [put, Function.update_self]

theorem put_of_ne {i j : Nat} (h : j ≠ i) (pending : Pending) (items : List Item) :
    pending.put i items j = pending j := by
  rw [put, Function.update_of_ne h]

theorem remove_of_ne {i j : Nat} (h : j ≠ i) (pending : Pending) :
    pending.remove i j = pending j := by
  rw [remove, Function.update_of_ne h]

theorem remove_comm {i j : Nat} (pending : Pending) :
    (pending.remove i).remove j = (pending.remove j).remove i := by
  rcases eq_or_ne i j with rfl | h
  · rfl
  · exact Function.update_comm h none none pending

/-- A result that has come in under a free number goes out again without a trace. -/
theorem remove_put {pending : Pending} {i : Nat} (h : pending i = none) (items : List Item) :
    (pending.put i items).remove i = pending := by
  rw [put, remove, Function.update_idem, ← h, Function.update_eq_self]

theorem takeAll?_cons {i : Nat} {pending : Pending} {items : List Item} (h : pending i = some items)
    (is : List Nat) : takeAll? (i :: is) pending =
      (takeAll? is (pending.remove i)).map fun (rest, pending) => (items ++ rest, pending) := by
  rw [takeAll?, h, Option.bind_some]

/-- What stands under other numbers is not touched. -/
theorem takeAll?_of_notMem {is : List Nat} {pending pending' : Pending} {items : List Item}
    (h : takeAll? is pending = some (items, pending')) {i : Nat} (hi : i ∉ is) :
    pending' i = pending i ∧ takeAll? is (pending.remove i) = some (items, pending'.remove i) := by
  induction is generalizing pending items with
  | nil =>
    obtain ⟨rfl, rfl⟩ : [] = items ∧ pending = pending' := by simpa [takeAll?] using h
    exact ⟨rfl, rfl⟩
  | cons j is ih =>
    rw [List.mem_cons, not_or] at hi
    obtain ⟨hij, hi⟩ := hi
    obtain ⟨first, hfirst, h⟩ := Option.bind_eq_some_iff.1 h
    obtain ⟨⟨rest, pending''⟩, hrest, heq⟩ := Option.map_eq_some_iff.1 h
    obtain ⟨rfl, rfl⟩ : first ++ rest = items ∧ pending'' = pending' := by simpa using heq
    obtain ⟨hsame, hremove⟩ := ih hrest hi
    refine ⟨by rw [hsame, remove_of_ne hij], ?_⟩
    rw [takeAll?_cons (by rw [remove_of_ne (Ne.symm hij), hfirst]), remove_comm, hremove]
    rfl

end Pending

/-- How far a walk with a table has come. -/
structure PendingProgress (σ : Type) where
  /-- The items of the finished entities that are not yet part of another. -/
  results : Pending
  diagnostics : List Diagnostic
  state : σ

namespace PendingProgress

variable {σ : Type}

def finish (p : PendingProgress σ) (hook : Finish σ) (e : Entity) (items : List Item) :
    PendingProgress σ :=
  let (items, state) := hook e items p.state
  { p with results := p.results.put e.index items, state }

def report (p : PendingProgress σ) (d : Diagnostic) : PendingProgress σ :=
  { p with diagnostics := p.diagnostics ++ [d] }

/-- The progress once the tree with the number `k` is finished. -/
def after (p : PendingProgress σ) (k : Nat) (reports : List Diagnostic)
    (result : List Item × σ) : PendingProgress σ :=
  { results := p.results.put k result.1
    diagnostics := p.diagnostics ++ reports
    state := result.2 }

theorem results_after (p : PendingProgress σ) (k : Nat) (reports : List Diagnostic)
    (result : List Item × σ) : (p.after k reports result).results = p.results.put k result.1 :=
  rfl

end PendingProgress

section Walk

variable {σ : Type} (a : Arena) (version : Int) (hook : Finish σ)

/-- Begin with an entity: the tasks that this brings, and the progress it makes. -/
def enterPending (e : Entity) (p : PendingProgress σ) : List Task × PendingProgress σ :=
  if e.isMissing then
    ([], (p.report (.missing e.toParseInfo)).finish hook e [])
  else if e.isToken && !e.isError then
    ([], p.finish hook e (tokenItems version e.toParseInfo e.text))
  else
    (e.children.map .enter ++ [.leave e.index],
      if e.isError then p.report (.unexpected e.toParseInfo) else p)

def leavePending? (e : Entity) (p : PendingProgress σ) : Option (PendingProgress σ) :=
  (Pending.takeAll? e.children p.results).map fun (below, results) =>
    { p with results }.finish hook e (nodeItems version e.toParseInfo below)

/-- Do the tasks of a stack; `none` if an entity or a result is not where it should be, or if
there are more tasks than `fuel`. -/
def walkPending? : Nat → List Task → PendingProgress σ → Option (PendingProgress σ)
  | _, [], p => some p
  | 0, _ :: _, _ => none
  | fuel + 1, .enter i :: tasks, p =>
    (a.entity? i).bind fun e =>
      let (more, p) := enterPending version hook e p
      walkPending? fuel (more ++ tasks) p
  | fuel + 1, .leave i :: tasks, p =>
    (a.entity? i).bind fun e =>
      (leavePending? version hook e p).bind fun p => walkPending? fuel tasks p

end Walk

/-- Convert a whole arena with a table of results. -/
def buildPending? {σ : Type} (a : Arena) (version : Int) (hook : Finish σ) (state : σ) :
    Option (Build σ) :=
  (walkPending? a version hook (2 * a.size) [.enter 0] ⟨fun _ => none, [], state⟩).bind fun p =>
    (p.results 0).map fun items =>
      { tree := rootNode a.root.toParseInfo items
        diagnostics := p.diagnostics
        state := p.state }

section Held

variable {σ : Type} {a : Arena} (version : Int) (hook : Finish σ)

theorem walkPending?_enter {k : Nat} {e : Entity} (he : a.entity? k = some e) (fuel : Nat)
    (tasks : List Task) (p : PendingProgress σ) :
    walkPending? a version hook (fuel + 1) (.enter k :: tasks) p =
      walkPending? a version hook fuel ((enterPending version hook e p).1 ++ tasks)
        (enterPending version hook e p).2 := by
  simp [walkPending?, he]

theorem walkPending?_leave {k : Nat} {e : Entity} (he : a.entity? k = some e) (fuel : Nat)
    (tasks : List Task) {p q : PendingProgress σ} (hq : leavePending? version hook e p = some q) :
    walkPending? a version hook (fuel + 1) (.leave k :: tasks) p =
      walkPending? a version hook fuel tasks q := by
  simp [walkPending?, he, hq]

theorem enterPending_of_isMissing {e : Entity} (h : e.isMissing = true) (p : PendingProgress σ) :
    enterPending version hook e p =
      ([], (p.report (.missing e.toParseInfo)).finish hook e []) := by
  rw [enterPending, if_pos h]

theorem enterPending_of_isToken {e : Entity} (hm : e.isMissing = false)
    (ht : (e.isToken && !e.isError) = true) (p : PendingProgress σ) :
    enterPending version hook e p =
      ([], p.finish hook e (tokenItems version e.toParseInfo e.text)) := by
  rw [enterPending, if_neg (by simp [hm]), if_pos ht]

theorem enterPending_of_isNode {e : Entity} (hm : e.isMissing = false)
    (ht : (e.isToken && !e.isError) = false) (p : PendingProgress σ) :
    enterPending version hook e p =
      (e.children.map .enter ++ [.leave e.index],
        if e.isError then p.report (.unexpected e.toParseInfo) else p) := by
  rw [enterPending, if_neg (by simp [hm]), if_neg (by simp [ht])]

/-- Leaving a node takes the results of its children out of the table. -/
theorem leavePending?_eq {e : Entity} {pending results : Pending} {below : List Item}
    (htake : Pending.takeAll? e.children pending = some (below, results))
    (diagnostics : List Diagnostic) (s : σ) :
    leavePending? version hook e ⟨pending, diagnostics, s⟩ =
      some (PendingProgress.finish ⟨results, diagnostics, s⟩ hook e
        (nodeItems version e.toParseInfo below)) := by
  rw [leavePending?, htake]
  rfl

mutual

/-- Entering a held tree of which nothing but the root may be in the table puts its root there
and leaves the rest of the table as it is. -/
theorem walkPending?_tree {parent : Option Nat} {k : Nat} {t : ParseTree}
    (h : a.Holds parent k t) :
    ∃ n, n ≤ 2 * t.size ∧ ∀ fuel tasks (p : PendingProgress σ),
      (∀ j, k < j → j < k + t.size → p.results j = none) →
        walkPending? a version hook (fuel + n) (.enter k :: tasks) p =
          walkPending? a version hook fuel tasks (p.after k (treeReports t)
            (treeItems a.source version hook parent k t p.state)) := by
  match t with
  | .node info children =>
    obtain ⟨he, hchildren⟩ := Arena.holds_node.1 h
    rw [ParseTree.size_node]
    cases hm : info.isMissing with
    | true =>
      refine ⟨1, by omega, ?_⟩
      intro fuel tasks p _
      rw [walkPending?_enter _ _ he, enterPending_of_isMissing _ _ hm, treeItems_of_isMissing hm,
        treeReports_of_isMissing hm]
      rfl
    | false =>
      cases ht : parent.isSome && children.isEmpty && !info.isError with
      | true =>
        refine ⟨1, by omega, ?_⟩
        intro fuel tasks p _
        have hleaf := isLeaf_of_isToken ht
        rw [walkPending?_enter _ _ he, enterPending_of_isToken _ _ hm ht,
          treeItems_of_isToken hm ht, treeReports_of_not_isMissing hm, hleaf.1, hleaf.2]
        simp [PendingProgress.finish, PendingProgress.after]
      | false =>
        obtain ⟨n, hn, hwalk⟩ := walkPending?_forest hchildren
        refine ⟨n + 2, by omega, ?_⟩
        intro fuel tasks p hfree
        have hbelow : ∀ j, k + 1 ≤ j → j < k + 1 + ParseTree.sizes children →
            (if info.isError then p.report (.unexpected info) else p).results j = none := by
          intro j hlo hhi
          have hj := hfree j (by omega) (by omega)
          cases info.isError <;> exact hj
        obtain ⟨pending, htake, hrun⟩ := hwalk (fuel + 1) (.leave k :: tasks) _ hbelow
        have henter : enterPending version hook
            (Entity.ofTree a.source parent k (.node info children)) p =
              ((ParseTree.positions (k + 1) children).map .enter ++ [.leave k],
                if info.isError then p.report (.unexpected info) else p) :=
          enterPending_of_isNode _ _ hm ht p
        have hfuel : fuel + (n + 2) = fuel + 1 + n + 1 := by omega
        rw [hfuel, walkPending?_enter _ _ he, henter, List.append_assoc, List.singleton_append,
          hrun, walkPending?_leave _ _ he _ _ (leavePending?_eq _ _ htake _ _),
          treeItems_of_isNode hm ht, treeReports_of_not_isMissing hm]
        cases info.isError <;>
          simp [PendingProgress.finish, PendingProgress.after, PendingProgress.report]

theorem walkPending?_forest {parent next : Nat} {ts : List ParseTree}
    (h : a.HoldsList parent next ts) :
    ∃ n, n ≤ 2 * ParseTree.sizes ts ∧ ∀ fuel tasks (p : PendingProgress σ),
      (∀ j, next ≤ j → j < next + ParseTree.sizes ts → p.results j = none) →
        ∃ pending, Pending.takeAll? (ParseTree.positions next ts) pending =
            some ((forestItems a.source version hook parent next ts p.state).1, p.results) ∧
          walkPending? a version hook (fuel + n)
              ((ParseTree.positions next ts).map .enter ++ tasks) p =
            walkPending? a version hook fuel tasks
              { results := pending
                diagnostics := p.diagnostics ++ forestReports ts
                state := (forestItems a.source version hook parent next ts p.state).2 } := by
  match ts with
  | [] =>
    refine ⟨0, by simp, ?_⟩
    intro fuel tasks p _
    exact ⟨p.results, by simp [ParseTree.positions, Pending.takeAll?],
      by simp [ParseTree.positions]⟩
  | t :: ts =>
    obtain ⟨ht, hts⟩ := Arena.holdsList_cons.1 h
    obtain ⟨n, hn, htree⟩ := walkPending?_tree ht
    obtain ⟨m, hm, hforest⟩ := walkPending?_forest hts
    refine ⟨m + n, by rw [ParseTree.sizes_cons]; omega, ?_⟩
    intro fuel tasks p hfree
    rw [ParseTree.sizes_cons] at hfree
    have hpos := t.size_pos
    have hfirst : ∀ j, next < j → j < next + t.size → p.results j = none :=
      fun j hlo hhi => hfree j (by omega) (by omega)
    have hrest : ∀ j, next + t.size ≤ j → j < next + t.size + ParseTree.sizes ts →
        (p.after next (treeReports t)
          (treeItems a.source version hook (some parent) next t p.state)).results j = none := by
      intro j hlo hhi
      rw [PendingProgress.results_after, Pending.put_of_ne (by omega)]
      exact hfree j (by omega) (by omega)
    obtain ⟨pending, htake, hrun⟩ := hforest fuel tasks _ hrest
    have hnext : next ∉ ParseTree.positions (next + t.size) ts := by
      intro hmem
      have := ParseTree.le_of_mem_positions hmem
      omega
    obtain ⟨hsame, hremove⟩ := Pending.takeAll?_of_notMem htake hnext
    -- The result of the first tree is still there after the others, and it goes out first.
    rw [PendingProgress.results_after, Pending.put_same] at hsame
    rw [PendingProgress.results_after,
      Pending.remove_put (hfree next (by omega) (by omega))] at hremove
    refine ⟨pending, ?_, ?_⟩
    · rw [ParseTree.positions, Pending.takeAll?_cons hsame.symm, hremove, forestItems_cons]
      rfl
    · have hfuel : fuel + (m + n) = fuel + m + n := by omega
      rw [ParseTree.positions, List.map_cons, List.cons_append, hfuel, htree _ _ _ hfirst, hrun]
      simp [forestItems_cons, forestReports_cons, PendingProgress.after]

end

end Held

/-- With a table of results the walk over the arena of a document gives what it gives with a
stack of them. -/
theorem buildPending?_eq {σ : Type} (d : Document) (version : Int) (hook : Finish σ) (s : σ) :
    buildPending? (Arena.ofDocument d) version hook s =
      build? (Arena.ofDocument d) version hook s := by
  obtain ⟨n, hn, hwalk⟩ := walkPending?_tree version hook (Arena.holds_ofDocument d)
  have hfuel : 2 * (Arena.ofDocument d).size = 2 * (Arena.ofDocument d).size - n + n := by
    rw [Arena.size_ofDocument]
    omega
  rw [build?_ofDocument, buildPending?, hfuel, hwalk _ _ _ (fun _ _ _ => rfl),
    Arena.root_ofDocument]
  cases 2 * (Arena.ofDocument d).size - n <;> simp [walkPending?, PendingProgress.after]

end SyntaxCursor.Conversion
