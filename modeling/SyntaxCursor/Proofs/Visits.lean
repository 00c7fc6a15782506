import SyntaxCursor.Proofs.Edits

/-!
# The visits of analyzers

While a tree is shown to analyzers, it is the tree as it was before with the edits of the visits
made so far, and these are the visits that were due, one after another, up to the first in which
an analyzer gives up (`Analysis.Reaches`). A node that is reached has the edits of the visits to it
alone, for what is below it is reached later: so it is as each `Visit` says it is seen. This holds
after each step (`Reaches.consult`), and so at the end (`reaches_analyze`).
-/
namespace SyntaxCursor.Navigation

open Abstract Conversion

/-- An analyzer is shown the node at a place and edits it. -/
structure Visit where
  place : Nat
  analyzer : Analyzer
  call : Call
  edit : Edit

/-- The edits of the node at a place in some visits. -/
def editsAt (vs : List Visit) (place : Nat) : List Edit :=
  (vs.filter (·.place == place)).map (·.edit)

theorem editsAt_concat (vs : List Visit) (v : Visit) (place : Nat) :
    editsAt (vs ++ [v]) place = editsAt vs place ++ if v.place = place then [v.edit] else [] := by
  rw [editsAt, List.filter_append, List.map_append]
  by_cases h : v.place = place <;> simp [h, editsAt]

theorem editsAt_eq_nil {vs : List Visit} {place : Nat} (h : ∀ v ∈ vs, v.place ≠ place) :
    editsAt vs place = [] := by
  rw [editsAt, List.filter_eq_nil_iff.2 (by simpa using h), List.map_nil]

/-- The class nodes of a tree in document order, with their places. -/
def classNodes (tree : Node) : List (Node × Nat) :=
  tree.nodes.zipIdx.filter fun (n, _) => n.info.kind == classKind

/-- All analyzers in their order for the first node, then for the next, and so on. -/
def visitsDue (analyzers : List Analyzer) (ns : List (Node × Nat)) : List (Nat × Analyzer) :=
  ns.flatMap fun (_, place) => analyzers.map fun a => (place, a)

theorem visitsDue_append (analyzers : List Analyzer) (ms ns : List (Node × Nat)) :
    visitsDue analyzers (ms ++ ns) = visitsDue analyzers ms ++ visitsDue analyzers ns :=
  List.flatMap_append

section Follows

variable (path : String) (before : List Call) (tree : Node)

/-- A visit to a node of a tree that comes after the visits `us`, and after the calls `before`
that were not made for this tree. The analyzer sees the last kind that was set for the node, and
behind its children all that was appended to it. It does what it does after all these calls. -/
structure Visit.Follows (v : Visit) (us : List Visit) : Prop where
  exists_node : ∃ n, tree.nodes[v.place]? = some n ∧
    v.call =
      { analyzer := v.analyzer.name
        path
        node := { n.info with kind := kindAfter n.info.kind (editsAt us v.place) }
        children := n.children ++ appendedBy (editsAt us v.place) }
  edit_eq : v.edit = v.analyzer.react (before ++ us.map (·.call)) v.call

/-- The visits to a tree that are made of those that are due, and why the last one was given up,
if it was. -/
structure Made (due : List (Nat × Analyzer)) (vs : List Visit) (failure : Option String) :
    Prop where
  isPrefix : vs.map (fun v => (v.place, v.analyzer)) <+: due
  follows : ∀ us v rest, vs = us ++ v :: rest → v.Follows path before tree us
  /-- If no analyzer gives up, all visits are made. -/
  complete : failure = none →
    vs.map (fun v => (v.place, v.analyzer)) = due ∧ ∀ v ∈ vs, v.edit.failure = none
  /-- The visit in which an analyzer gives up is the last. -/
  stopped : ∀ reason, failure = some reason → ∃ us v, vs = us ++ [v] ∧
    (∀ u ∈ us, u.edit.failure = none) ∧ v.edit.failure = some reason

/-- What the analysis of a tree has come to with these visits. -/
structure Analysis.Reaches (s : Analysis) (due : List (Nat × Analyzer)) (vs : List Visit) :
    Prop where
  made : Made path before tree due vs s.failure
  tree_eq : s.tree = editTree (editsAt vs) tree
  calls_eq : s.calls = vs.map (·.call)

end Follows

variable {path : String} {before : List Call} {tree : Node}

namespace Made

variable {due : List (Nat × Analyzer)} {vs : List Visit}

theorem mem_due {failure : Option String} (h : Made path before tree due vs failure) {v : Visit}
    (hv : v ∈ vs) : (v.place, v.analyzer) ∈ due :=
  h.isPrefix.subset (List.mem_map_of_mem hv)

/-- After a failure nothing more is made of what is due. -/
theorem append {reason : String} (h : Made path before tree due vs (some reason))
    (more : List (Nat × Analyzer)) : Made path before tree (due ++ more) vs (some reason) where
  isPrefix := h.isPrefix.trans (List.prefix_append due more)
  follows := h.follows
  complete := by simp
  stopped := h.stopped

/-- One more visit is made. -/
theorem concat (h : Made path before tree due vs none) {v : Visit}
    (hv : v.Follows path before tree vs) :
    Made path before tree (due ++ [(v.place, v.analyzer)]) (vs ++ [v]) v.edit.failure where
  isPrefix := by
    rw [List.map_append, (h.complete rfl).1]
    exact List.prefix_refl _
  follows := by
    intro us u rest hsplit
    rcases List.eq_nil_or_concat rest with rfl | ⟨rest, w, rfl⟩
    · obtain ⟨rfl, heq⟩ := List.append_inj' hsplit rfl
      obtain rfl := List.singleton_inj.1 heq
      exact hv
    · rw [List.concat_eq_append, ← List.cons_append, ← List.append_assoc] at hsplit
      exact h.follows us u rest (List.append_inj' hsplit rfl).1
  complete := by
    intro hnone
    obtain ⟨hdue, hvs⟩ := h.complete rfl
    refine ⟨by rw [List.map_append, hdue]; rfl, ?_⟩
    rw [List.forall_mem_append]
    exact ⟨hvs, List.forall_mem_singleton.2 hnone⟩
  stopped := fun reason hreason => ⟨vs, v, rfl, (h.complete rfl).2, hreason⟩

end Made

namespace Analysis

variable {s : Analysis} {place : Nat} {a : Analyzer}

theorem consult_of_failure {reason : String} (h : s.failure = some reason) :
    s.consult path before place a = s := by
  rw [consult, h]

theorem consult_of_node {n : Node} (hfailure : s.failure = none)
    (hn : s.tree.nodes[place]? = some n) :
    let call : Call := { analyzer := a.name, path, node := n.info, children := n.children }
    let edit := a.react (before ++ s.calls) call
    s.consult path before place a =
      { tree := s.tree.modifyAt edit.apply place
        calls := s.calls ++ [call]
        failure := edit.failure } := by
  rw [consult, hfailure, hn]

end Analysis

namespace Analysis.Reaches

variable {s : Analysis} {due : List (Nat × Analyzer)} {vs : List Visit} {place : Nat} {n : Node}
  (h : s.Reaches path before tree due vs)

include h

/-- A node below which nothing was visited is found as the visits to it have left it. -/
theorem getElem?_nodes (hn : tree.nodes[place]? = some n) (hdue : ∀ job ∈ due, job.1 ≤ place) :
    s.tree.nodes[place]? = some
      { info := { n.info with kind := kindAfter n.info.kind (editsAt vs place) }
        children := n.children ++ appendedBy (editsAt vs place) } := by
  have hbelow : ∀ k, place < k → editsAt vs k = [] := by
    intro k hk
    refine editsAt_eq_nil fun v hv => ?_
    have hle : v.place ≤ place := hdue _ (h.made.mem_due hv)
    omega
  rw [h.tree_eq, getElem?_nodes_editTree, hn, Option.map_some, editNode_of_below hbelow]

/-- After a failure nothing more is shown. -/
theorem append {reason : String} (hfailure : s.failure = some reason)
    (more : List (Nat × Analyzer)) : s.Reaches path before tree (due ++ more) vs where
  made := by
    have hmade := h.made
    rw [hfailure] at hmade ⊢
    exact hmade.append more
  tree_eq := h.tree_eq
  calls_eq := h.calls_eq

/-- One more visit is made. -/
theorem concat (hfailure : s.failure = none) {v : Visit} (hv : v.Follows path before tree vs) :
    Analysis.Reaches path before tree
      { tree := s.tree.modifyAt v.edit.apply v.place
        calls := s.calls ++ [v.call]
        failure := v.edit.failure }
      (due ++ [(v.place, v.analyzer)]) (vs ++ [v]) where
  made := by
    have hmade := h.made
    rw [hfailure] at hmade
    exact hmade.concat hv
  tree_eq := by
    obtain ⟨n, hn, -⟩ := hv.exists_node
    have hlt : v.place < tree.nodes.length := (List.getElem?_eq_some_iff.1 hn).1
    rw [h.tree_eq]
    refine modifyAt_editTree hlt ?_ fun k hk => ?_
    · rw [editsAt_concat, if_pos rfl]
    · rw [editsAt_concat, if_neg hk.symm, List.append_nil]
  calls_eq := by
    rw [h.calls_eq, List.map_append, List.map_singleton]

/-- Showing the node that is reached to an analyzer. -/
theorem consult (hn : tree.nodes[place]? = some n) (hdue : ∀ job ∈ due, job.1 ≤ place)
    (a : Analyzer) :
    ∃ vs', (s.consult path before place a).Reaches path before tree (due ++ [(place, a)]) vs' := by
  cases hfailure : s.failure with
  | some reason =>
    rw [Analysis.consult_of_failure hfailure]
    exact ⟨vs, h.append hfailure _⟩
  | none =>
    rw [Analysis.consult_of_node hfailure (h.getElem?_nodes hn hdue)]
    refine ⟨_, h.concat (v := ⟨place, a, _, _⟩) hfailure ⟨⟨n, hn, rfl⟩, ?_⟩⟩
    rw [← h.calls_eq]

/-- Showing the node that is reached to all analyzers. -/
theorem foldl_consult (hn : tree.nodes[place]? = some n) (hdue : ∀ job ∈ due, job.1 ≤ place)
    (analyzers : List Analyzer) :
    ∃ vs', (analyzers.foldl (Analysis.consult path before · place) s).Reaches path before tree
      (due ++ analyzers.map fun a => (place, a)) vs' := by
  induction analyzers generalizing s due vs with
  | nil => exact ⟨vs, by rwa [List.map_nil, List.append_nil]⟩
  | cons a analyzers ih =>
    obtain ⟨vs', hnext⟩ := h.consult hn hdue a
    have hdue' : ∀ job ∈ due ++ [(place, a)], job.1 ≤ place := by
      rw [List.forall_mem_append]
      exact ⟨hdue, List.forall_mem_singleton.2 (Nat.le_refl place)⟩
    rw [List.foldl_cons, List.map_cons, List.append_cons]
    exact ih hnext hdue'

/-- A node that is reached for the first time has its own kind still. -/
theorem visit (hn : tree.nodes[place]? = some n) (hdue : ∀ job ∈ due, job.1 < place)
    (analyzers : List Analyzer) :
    ∃ vs', (s.visit path before place analyzers).Reaches path before tree
      (due ++ visitsDue analyzers ([(n, place)].filter fun (n, _) => n.info.kind == classKind))
      vs' := by
  have hle : ∀ job ∈ due, job.1 ≤ place := fun job hjob => Nat.le_of_lt (hdue job hjob)
  have hunseen : editsAt vs place = [] :=
    editsAt_eq_nil fun v hv => Nat.ne_of_lt (hdue _ (h.made.mem_due hv))
  have hlive := h.getElem?_nodes hn hle
  rw [hunseen, kindAfter_nil, appendedBy_nil, List.append_nil] at hlive
  rw [Analysis.visit, hlive, Option.any_some]
  cases hclass : n.info.kind == classKind with
  | false =>
    rw [if_neg Bool.false_ne_true, List.filter_cons_of_neg (by simp [hclass])]
    exact ⟨vs, by rwa [List.filter_nil, visitsDue, List.flatMap_nil, List.append_nil]⟩
  | true =>
    rw [if_pos rfl, List.filter_cons_of_pos (by simp [hclass]), List.filter_nil, visitsDue,
      List.flatMap_singleton]
    exact h.foldl_consult hn hle analyzers

end Analysis.Reaches

theorem reaches_start : ({ tree } : Analysis).Reaches path before tree [] [] where
  made :=
    { isPrefix := List.prefix_refl []
      follows := by simp
      complete := by simp
      stopped := by simp }
  tree_eq := (editTree_of_nil tree).symm
  calls_eq := rfl

/-- The nodes that are listed before the first edit are gone through from the first to the last. -/
theorem reaches_foldl_visit (analyzers : List Analyzer) {count : Nat}
    (hcount : count ≤ tree.nodes.length) :
    ∃ vs, ((List.range count).foldl (Analysis.visit path before · · analyzers)
      { tree }).Reaches path before tree
        (visitsDue analyzers ((tree.nodes.zipIdx.take count).filter fun (n, _) =>
          n.info.kind == classKind)) vs := by
  induction count with
  | zero => exact ⟨[], reaches_start⟩
  | succ count ih =>
    obtain ⟨vs, hvs⟩ := ih (by omega)
    have hlt : count < tree.nodes.length := by omega
    have hn : tree.nodes[count]? = some tree.nodes[count] := List.getElem?_eq_getElem hlt
    have htake : tree.nodes.zipIdx.take (count + 1) =
        tree.nodes.zipIdx.take count ++ [(tree.nodes[count], count)] := by
      rw [List.take_add_one, List.getElem?_zipIdx, hn, Nat.zero_add]
      rfl
    have hdue : ∀ job ∈ visitsDue analyzers ((tree.nodes.zipIdx.take count).filter
        fun (n, _) => n.info.kind == classKind), job.1 < count := by
      intro job hjob
      obtain ⟨⟨m, place⟩, hm, hjob⟩ := List.mem_flatMap.1 hjob
      obtain ⟨a, -, rfl⟩ := List.mem_map.1 hjob
      obtain ⟨k, hk, heq⟩ := List.mem_take_iff_getElem.1 (List.mem_filter.1 hm).1
      rw [List.getElem_zipIdx] at heq
      obtain ⟨-, rfl⟩ := Prod.mk.inj heq
      omega
    rw [List.range_succ, List.foldl_append, htake, List.filter_append, visitsDue_append]
    exact hvs.visit hn hdue analyzers

/-- Each class node of a tree is shown to all analyzers in document order, until one gives up. -/
theorem reaches_analyze (analyzers : List Analyzer) (path : String) (before : List Call)
    (tree : Node) :
    ∃ vs, (analyze analyzers path before tree).Reaches path before tree
      (visitsDue analyzers (classNodes tree)) vs := by
  rw [analyze]
  split
  case isTrue hnone =>
    obtain rfl := List.isEmpty_iff.1 hnone
    have hdue : visitsDue [] (classNodes tree) = [] := by simp [visitsDue]
    rw [hdue]
    exact ⟨[], reaches_start⟩
  case isFalse =>
    obtain ⟨vs, hvs⟩ := reaches_foldl_visit analyzers (Nat.le_refl tree.nodes.length)
    rw [List.take_of_length_le (Nat.le_of_eq List.length_zipIdx)] at hvs
    exact ⟨vs, hvs⟩

end SyntaxCursor.Navigation
