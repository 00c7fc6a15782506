import SyntaxCursor.Conversion.Walk
import SyntaxCursor.Proofs.Placement

/-!
# The walk as a recursion on the parse tree

`treeItems` converts a parse tree by recursion on it: the items of a node are made from those
of its children, and every list of items passes through the hook. The walk with its stack of
tasks computes the same on the arena of the tree (`build?_ofDocument`), in particular it never
fails there. A walk that begins with some other entity of the arena gives the items of the
subtree (`itemsAt?_eq`). What is reported does not depend on the hook.
-/
namespace SyntaxCursor.Conversion

open Abstract Concrete

section Recursion

variable {σ : Type} (source : List UInt8) (version : Int) (hook : Finish σ)

mutual

/-- The items of a tree whose root hangs under `parent` and has the number `k`, and the state
in which the hook is left. -/
def treeItems (parent : Option Nat) (k : Nat) : ParseTree → σ → List Item × σ
  | .node info children, s =>
    let e := Entity.ofTree source parent k (.node info children)
    if info.isMissing then hook e [] s
    else if e.isToken && !info.isError then hook e (tokenItems version info e.text) s
    else
      let below := forestItems k (k + 1) children s
      hook e (nodeItems version info below.1) below.2

/-- The items of trees that hang under one node, joined. -/
def forestItems (parent next : Nat) : List ParseTree → σ → List Item × σ
  | [], s => ([], s)
  | t :: ts, s =>
    let first := treeItems (some parent) next t s
    let rest := forestItems parent (next + t.size) ts first.2
    (first.1 ++ rest.1, rest.2)

end

end Recursion

mutual

/-- What is reported about a tree. Nothing below a missing node is looked at. -/
def treeReports : ParseTree → List Diagnostic
  | .node info children =>
    if info.isMissing then [.missing info]
    else (if info.isError then [.unexpected info] else []) ++ forestReports children

def forestReports : List ParseTree → List Diagnostic
  | [] => []
  | t :: ts => treeReports t ++ forestReports ts

end

section Equations

variable {σ : Type} {source : List UInt8} {version : Int} {hook : Finish σ}
  {parent : Option Nat} {k : Nat} {info : ParseInfo} {children : List ParseTree} {s : σ}

theorem treeItems_of_isMissing (h : info.isMissing = true) :
    treeItems source version hook parent k (.node info children) s =
      hook (Entity.ofTree source parent k (.node info children)) [] s := by
  rw [treeItems]
  exact if_pos h

/-- A token has nothing below it, and it is not erroneous. -/
theorem isLeaf_of_isToken
    (ht : (parent.isSome && children.isEmpty && !info.isError) = true) :
    children = [] ∧ info.isError = false := by
  rw [Bool.and_eq_true, Bool.and_eq_true, List.isEmpty_iff, Bool.not_eq_true'] at ht
  exact ⟨ht.1.2, ht.2⟩

theorem treeItems_of_isToken (hm : info.isMissing = false)
    (ht : (parent.isSome && children.isEmpty && !info.isError) = true) :
    treeItems source version hook parent k (.node info children) s =
      hook (Entity.ofTree source parent k (.node info children))
        (tokenItems version info (Entity.ofTree source parent k (.node info children)).text)
        s := by
  rw [treeItems]
  simp only [hm, Bool.false_eq_true, ↓reduceIte]
  exact if_pos ht

theorem treeItems_of_isNode (hm : info.isMissing = false)
    (ht : (parent.isSome && children.isEmpty && !info.isError) = false) :
    treeItems source version hook parent k (.node info children) s =
      hook (Entity.ofTree source parent k (.node info children))
        (nodeItems version info (forestItems source version hook k (k + 1) children s).1)
        (forestItems source version hook k (k + 1) children s).2 := by
  rw [treeItems]
  simp only [hm, Bool.false_eq_true, ↓reduceIte]
  exact if_neg (by simpa using ht)

@[simp] theorem forestItems_nil {parent next : Nat} :
    forestItems source version hook parent next [] s = ([], s) := by
  rw [forestItems]

theorem forestItems_cons {parent next : Nat} {t : ParseTree} {ts : List ParseTree} :
    forestItems source version hook parent next (t :: ts) s =
      ((treeItems source version hook (some parent) next t s).1 ++
          (forestItems source version hook parent (next + t.size) ts
            (treeItems source version hook (some parent) next t s).2).1,
        (forestItems source version hook parent (next + t.size) ts
          (treeItems source version hook (some parent) next t s).2).2) := by
  rw [forestItems]

theorem treeReports_of_isMissing (h : info.isMissing = true) :
    treeReports (.node info children) = [.missing info] := by
  rw [treeReports, if_pos h]

theorem treeReports_of_not_isMissing (h : info.isMissing = false) :
    treeReports (.node info children) =
      (if info.isError then [.unexpected info] else []) ++ forestReports children := by
  rw [treeReports, if_neg (by simp [h])]

@[simp] theorem forestReports_nil : forestReports [] = [] := by rw [forestReports]

theorem forestReports_cons {t : ParseTree} {ts : List ParseTree} :
    forestReports (t :: ts) = treeReports t ++ forestReports ts := by
  rw [forestReports]

end Equations

/-- The progress once a tree is finished that gave this result and these reports. -/
def Progress.after {σ : Type} (p : Progress σ) (reports : List Diagnostic)
    (result : List Item × σ) : Progress σ :=
  { results := result.1 :: p.results
    diagnostics := p.diagnostics ++ reports
    state := result.2 }

section Walk

variable {σ : Type} {a : Arena} (version : Int) (hook : Finish σ)

theorem walk?_enter {k : Nat} {e : Entity} (he : a.entity? k = some e) (fuel : Nat)
    (tasks : List Task) (p : Progress σ) :
    walk? a version hook (fuel + 1) (.enter k :: tasks) p =
      walk? a version hook fuel ((enter version hook e p).1 ++ tasks)
        (enter version hook e p).2 := by
  simp [walk?, he]

theorem walk?_leave {k : Nat} {e : Entity} (he : a.entity? k = some e) (fuel : Nat)
    (tasks : List Task) {p q : Progress σ} (hq : leave? version hook e p = some q) :
    walk? a version hook (fuel + 1) (.leave k :: tasks) p =
      walk? a version hook fuel tasks q := by
  simp [walk?, he, hq]

theorem enter_of_isMissing {e : Entity} (h : e.isMissing = true) (p : Progress σ) :
    enter version hook e p = ([], (p.report (.missing e.toParseInfo)).finish hook e []) := by
  rw [enter, if_pos h]

theorem enter_of_isToken {e : Entity} (hm : e.isMissing = false)
    (ht : (e.isToken && !e.isError) = true) (p : Progress σ) :
    enter version hook e p =
      ([], p.finish hook e (tokenItems version e.toParseInfo e.text)) := by
  rw [enter, if_neg (by simp [hm]), if_pos ht]

theorem enter_of_isNode {e : Entity} (hm : e.isMissing = false)
    (ht : (e.isToken && !e.isError) = false) (p : Progress σ) :
    enter version hook e p =
      (e.children.map .enter ++ [.leave e.index],
        if e.isError then p.report (.unexpected e.toParseInfo) else p) := by
  rw [enter, if_neg (by simp [hm]), if_neg (by simp [ht])]

/-- Leaving a node takes the results of its children from the top. -/
theorem leave?_append {e : Entity} {results : List (List Item)}
    (hlen : results.length = e.children.length) (rest : List (List Item))
    (diagnostics : List Diagnostic) (s : σ) :
    leave? version hook e ⟨results ++ rest, diagnostics, s⟩ =
      some (Progress.finish ⟨rest, diagnostics, s⟩ hook e
        (nodeItems version e.toParseInfo results.reverse.flatten)) := by
  simp [leave?, Progress.take?, Progress.finish, ← hlen]

mutual

/-- Entering the root of a held tree leads to the result of the tree, whatever is to be done
afterwards. -/
theorem walk?_tree {parent : Option Nat} {k : Nat} {t : ParseTree}
    (h : a.Holds parent k t) : ∃ n, n ≤ 2 * t.size ∧ ∀ fuel tasks (p : Progress σ),
      walk? a version hook (fuel + n) (.enter k :: tasks) p =
        walk? a version hook fuel tasks
          (p.after (treeReports t) (treeItems a.source version hook parent k t p.state)) := by
  match t with
  | .node info children =>
    obtain ⟨he, hchildren⟩ := Arena.holds_node.1 h
    rw [ParseTree.size_node]
    cases hm : info.isMissing with
    | true =>
      refine ⟨1, by omega, ?_⟩
      intro fuel tasks p
      rw [walk?_enter _ _ he, enter_of_isMissing _ _ hm, treeItems_of_isMissing hm,
        treeReports_of_isMissing hm]
      rfl
    | false =>
      cases ht : parent.isSome && children.isEmpty && !info.isError with
      | true =>
        refine ⟨1, by omega, ?_⟩
        intro fuel tasks p
        have hleaf := isLeaf_of_isToken ht
        rw [walk?_enter _ _ he, enter_of_isToken _ _ hm ht, treeItems_of_isToken hm ht,
          treeReports_of_not_isMissing hm, hleaf.1, hleaf.2]
        simp [Progress.finish, Progress.after]
      | false =>
        obtain ⟨n, hn, hwalk⟩ := walk?_forest hchildren
        refine ⟨n + 2, by omega, ?_⟩
        intro fuel tasks p
        obtain ⟨results, hlen, hflat, hrun⟩ := hwalk (fuel + 1) (.leave k :: tasks)
          (if info.isError then p.report (.unexpected info) else p)
        have henter : enter version hook (Entity.ofTree a.source parent k (.node info children))
            p = ((ParseTree.positions (k + 1) children).map .enter ++ [.leave k],
              if info.isError then p.report (.unexpected info) else p) :=
          enter_of_isNode _ _ hm ht p
        have hfuel : fuel + (n + 2) = fuel + 1 + n + 1 := by omega
        rw [hfuel, walk?_enter _ _ he, henter, List.append_assoc, List.singleton_append, hrun,
          walk?_leave _ _ he _ _ (leave?_append _ _ (by simpa using hlen) _ _ _), hflat,
          treeItems_of_isNode hm ht, treeReports_of_not_isMissing hm]
        cases info.isError <;> simp [Progress.finish, Progress.after, Progress.report]

theorem walk?_forest {parent next : Nat} {ts : List ParseTree}
    (h : a.HoldsList parent next ts) :
    ∃ n, n ≤ 2 * ParseTree.sizes ts ∧ ∀ fuel tasks (p : Progress σ),
      ∃ results : List (List Item), results.length = ts.length ∧
        results.reverse.flatten =
          (forestItems a.source version hook parent next ts p.state).1 ∧
        walk? a version hook (fuel + n)
            ((ParseTree.positions next ts).map .enter ++ tasks) p =
          walk? a version hook fuel tasks
            { results := results ++ p.results
              diagnostics := p.diagnostics ++ forestReports ts
              state := (forestItems a.source version hook parent next ts p.state).2 } := by
  match ts with
  | [] =>
    refine ⟨0, by simp, ?_⟩
    intro fuel tasks p
    exact ⟨[], rfl, by simp, by simp [ParseTree.positions]⟩
  | t :: ts =>
    obtain ⟨ht, hts⟩ := Arena.holdsList_cons.1 h
    obtain ⟨n, hn, htree⟩ := walk?_tree ht
    obtain ⟨m, hm, hforest⟩ := walk?_forest hts
    refine ⟨m + n, by rw [ParseTree.sizes_cons]; omega, ?_⟩
    intro fuel tasks p
    obtain ⟨results, hlen, hflat, hrun⟩ := hforest fuel tasks
      (p.after (treeReports t) (treeItems a.source version hook (some parent) next t p.state))
    refine ⟨results ++ [(treeItems a.source version hook (some parent) next t p.state).1],
      by simp [hlen], ?_, ?_⟩
    · simp only [forestItems_cons, List.reverse_append, List.reverse_singleton,
        List.singleton_append, List.flatten_cons, hflat]
      rfl
    · rw [ParseTree.positions, List.map_cons, List.cons_append,
        show fuel + (m + n) = fuel + m + n by omega, htree, hrun]
      simp [forestItems_cons, forestReports_cons, Progress.after]

end

end Walk

section Build

variable {σ : Type} {a : Arena} {version : Int} {hook : Finish σ}

/-- The walk through a held tree alone, with more fuel than it needs. -/
theorem walk?_of_holds {parent : Option Nat} {k : Nat} {t : ParseTree} (h : a.Holds parent k t)
    (hsize : t.size ≤ a.size) (s : σ) :
    walk? a version hook (2 * a.size) [.enter k] ⟨[], [], s⟩ =
      some (Progress.after ⟨[], [], s⟩ (treeReports t)
        (treeItems a.source version hook parent k t s)) := by
  obtain ⟨n, hn, hwalk⟩ := walk?_tree version hook h
  have hfuel : 2 * a.size = 2 * a.size - n + n := by omega
  rw [hfuel, hwalk]
  cases 2 * a.size - n <;> rfl

/-- The walk over the arena of a document gives what the recursion on its tree gives. -/
theorem build?_ofDocument (d : Document) (version : Int) (hook : Finish σ) (s : σ) :
    build? (Arena.ofDocument d) version hook s =
      some { tree := rootNode d.tree.info (treeItems d.source version hook none 0 d.tree s).1
             diagnostics := treeReports d.tree
             state := (treeItems d.source version hook none 0 d.tree s).2 } := by
  have h := Arena.holds_ofDocument d
  rw [build?, walk?_of_holds h (by simp), Arena.root_ofDocument]
  simp [Progress.after]

end Build

section Plain

variable (source : List UInt8) (version : Int)

/-- The items of a tree when nothing touches them. -/
def plainItems (parent : Option Nat) (k : Nat) (t : ParseTree) : List Item :=
  (treeItems source version keep parent k t ()).1

/-- The items of trees under one node when nothing touches them. -/
def plainForest (parent next : Nat) (ts : List ParseTree) : List Item :=
  (forestItems source version keep parent next ts ()).1

variable {source version} {parent : Option Nat} {k : Nat} {info : ParseInfo}
  {children : List ParseTree}

theorem plainItems_of_isMissing (h : info.isMissing = true) :
    plainItems source version parent k (.node info children) = [] := by
  rw [plainItems, treeItems_of_isMissing h]
  rfl

theorem plainItems_of_isToken (hm : info.isMissing = false)
    (ht : (parent.isSome && children.isEmpty && !info.isError) = true) :
    plainItems source version parent k (.node info children) =
      tokenItems version info (Entity.ofTree source parent k (.node info children)).text := by
  rw [plainItems, treeItems_of_isToken hm ht]
  rfl

theorem plainItems_of_isNode (hm : info.isMissing = false)
    (ht : (parent.isSome && children.isEmpty && !info.isError) = false) :
    plainItems source version parent k (.node info children) =
      nodeItems version info (plainForest source version k (k + 1) children) := by
  rw [plainItems, treeItems_of_isNode hm ht]
  rfl

@[simp] theorem plainForest_nil {parent next : Nat} :
    plainForest source version parent next [] = [] := by
  rw [plainForest, forestItems_nil]

theorem plainForest_cons {parent next : Nat} {t : ParseTree} {ts : List ParseTree} :
    plainForest source version parent next (t :: ts) =
      plainItems source version (some parent) next t ++
        plainForest source version parent (next + t.size) ts := by
  rw [plainForest, forestItems_cons]
  rfl

end Plain

/-- The plain conversion of a document. -/
def plainBuild (d : Document) (version : Int) : Build Unit :=
  { tree := rootNode d.tree.info (plainItems d.source version none 0 d.tree)
    diagnostics := treeReports d.tree
    state := () }

theorem build?_keep (d : Document) (version : Int) :
    build? (Arena.ofDocument d) version keep () = some (plainBuild d version) :=
  build?_ofDocument d version keep ()

/-- The items that entity `k` becomes in a walk that begins with it. -/
def itemsAt? (a : Arena) (version : Int) (k : Nat) : Option (List Item) :=
  (walk? a version keep (2 * a.size) [.enter k] ⟨[], [], ()⟩).bind (·.results.head?)

theorem itemsAt?_eq {a : Arena} {parent : Option Nat} {k : Nat} {t : ParseTree}
    (h : a.Holds parent k t) (hsize : t.size ≤ a.size) (version : Int) :
    itemsAt? a version k = some (plainItems a.source version parent k t) := by
  rw [itemsAt?, walk?_of_holds h hsize]
  rfl

end SyntaxCursor.Conversion
