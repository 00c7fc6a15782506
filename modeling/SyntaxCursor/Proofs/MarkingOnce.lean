import SyntaxCursor.Proofs.Selecting
import SyntaxCursor.Proofs.TargetVersion

/-!
# Marking once for a select

A selection outlives the trees that are built for it. The first build after a select marks one
node or none. If it marks one, the selection is resolved and later builds leave everything
alone. If it marks none, then no build for it marks any, whatever its version: builds for two
versions run in step. So a selection is spent as soon as a tree was built for it
(`isSpent_after_build`), and stays so until the next select.
-/
namespace SyntaxCursor.Conversion

open Abstract Concrete

/-- What the hook that marks makes of plain items and an overlay: it leaves both alone, or it
marks one node. -/
inductive MarksOne (plain : List Item) (o : Overlay) : List Item × Overlay → Prop
  | none : MarksOne plain o (plain, o)
  | one {is : List Item} {e : Entity} {n : Node} (h : Item.selectedIn is = [n.select]) :
    MarksOne plain o (is, o.after e n)

theorem marksOne_mark {is : List Item} (hplain : Item.selectedIn is = []) (e : Entity)
    (o : Overlay) : MarksOne is o (mark e is o) := by
  simp only [mark]
  split
  · exact .none
  · cases hsingle : singleNode? is with
    | none => exact .none
    | some n =>
      have hflagged := selectedIn_flagSingle hsingle hplain
      rw [flagSingle_of_some hsingle] at hflagged
      exact .one hflagged

section Tree

variable (source : List UInt8) (version : Int)

mutual

theorem marksOne_treeItems (parent : Option Nat) (k : Nat) (t : ParseTree) (o : Overlay) :
    MarksOne (plainItems source version parent k t) o
      (treeItems source version mark parent k t o) := by
  have hplain := selectedIn_plainItems source version parent k t
  match t with
  | .node info children =>
    cases hm : info.isMissing with
    | true =>
      rw [plainItems_of_isMissing hm] at hplain ⊢
      rw [treeItems_of_isMissing hm]
      exact marksOne_mark hplain _ o
    | false =>
      cases ht : parent.isSome && children.isEmpty && !info.isError with
      | true =>
        rw [plainItems_of_isToken hm ht] at hplain ⊢
        rw [treeItems_of_isToken hm ht]
        exact marksOne_mark hplain _ o
      | false =>
        have hbelow := marksOne_forestItems k (k + 1) children o
        rw [plainItems_of_isNode hm ht] at hplain ⊢
        rw [treeItems_of_isNode hm ht]
        generalize forestItems source version mark k (k + 1) children o = below at hbelow ⊢
        cases hbelow with
        | none => exact marksOne_mark hplain _ o
        | one h =>
          -- A node was marked below, so that the hook does nothing at the root.
          rw [inert_mark_after _ _ _ k (k + 1) _ _ (Nat.le_refl k) (Nat.lt_succ_self k)]
          exact .one (by rw [selectedIn_nodeItems, h])

theorem marksOne_forestItems (parent next : Nat) (ts : List ParseTree) (o : Overlay) :
    MarksOne (plainForest source version parent next ts) o
      (forestItems source version mark parent next ts o) := by
  match ts with
  | [] =>
    rw [plainForest_nil, forestItems_nil]
    exact .none
  | t :: ts =>
    have hfirst := marksOne_treeItems (some parent) next t o
    rw [plainForest_cons, forestItems_cons]
    generalize treeItems source version mark (some parent) next t o = first at hfirst ⊢
    cases hfirst with
    | none =>
      have hrest := marksOne_forestItems parent (next + t.size) ts o
      dsimp only
      generalize forestItems source version mark parent (next + t.size) ts o = rest at hrest ⊢
      cases hrest with
      | none => exact .none
      | one h =>
        refine .one ?_
        rw [Item.selectedIn_append, selectedIn_plainItems, h, List.nil_append]
    | one h =>
      rw [forestItems_of_inert source version parent _ ts (inert_mark_after _ _ _ _ _)]
      refine .one ?_
      rw [Item.selectedIn_append, selectedIn_plainForest, h, List.append_nil]

end

end Tree

section Build

variable (d : Document) (version : Int) (s : Selection)

/-- A build leaves the selection as it was and marks nothing, or it marks one node and resolves
the selection. -/
theorem markedBuild_cases :
    ((markedBuild d version s).tree.selectedNodes = [] ∧
      (markedBuild d version s).state.marks = [] ∧
      (markedBuild d version s).state.selection = s) ∨
    ∃ n mark, (markedBuild d version s).tree.selectedNodes = [n] ∧
      (markedBuild d version s).state.marks = [mark] ∧
      (markedBuild d version s).state.selection = { s with resolved := true } := by
  have hmarks := marksOne_treeItems d.source version none 0 d.tree { selection := s }
  have hplain := selectedIn_plainItems d.source version none 0 d.tree
  simp only [markedBuild, selectedNodes_rootNode]
  generalize treeItems d.source version mark none 0 d.tree { selection := s } = marked
    at hmarks ⊢
  cases hmarks with
  | none => exact .inl ⟨hplain, rfl, rfl⟩
  | one h => exact .inr ⟨_, _, h, rfl, rfl⟩

/-- The trees that are built for one selection differ only in the kinds of their nodes. -/
theorem unname_markedBuild (v w : Int) :
    (markedBuild d v s).tree.unname = (markedBuild d w s).tree.unname :=
  unname_rootNode (unname_treeItems d.source v w kindBlind_mark none 0 d.tree rfl).1 d.tree.info

theorem firstSelected?_markedBuild (v w : Int) :
    (markedBuild d v s).tree.firstSelected? = (markedBuild d w s).tree.firstSelected? := by
  rw [← Node.firstSelected?_unname, unname_markedBuild d s v w, Node.firstSelected?_unname]

end Build

theorem selectedIndices_append (steps more : List SelectionStep) :
    selectedIndices (steps ++ more) = selectedIndices steps ++ selectedIndices more :=
  List.filterMap_append

theorem firstSelected?_eq_none_iff (n : Node) : n.firstSelected? = none ↔ n.selectedNodes = [] := by
  rw [Node.firstSelected?, Node.selectedNodes, List.findIdx?_eq_none_iff, List.filter_eq_nil_iff]
  simp only [Bool.not_eq_true]

namespace Selection

/-- No tree that is built for the selection has a selected node. -/
def IsSpent (d : Document) (s : Selection) : Prop :=
  ∀ version, (markedBuild d version s).tree.selectedNodes = []

section Spent

variable {d : Document}

theorem isSpent_of_inert {s : Selection}
    (h : Inert mark { selection := s } 0 (0 + d.tree.size)) : s.IsSpent d := by
  intro version
  simp only [markedBuild, selectedNodes_rootNode]
  rw [treeItems_of_inert d.source version h, selectedIn_plainItems]

theorem isSpent_of_isEmpty {s : Selection} (h : s.isEmpty = true) : s.IsSpent d :=
  isSpent_of_inert fun _ _ _ _ => by simp [mark, h]

theorem isSpent_of_resolved {s : Selection} (h : s.resolved = true) : s.IsSpent d :=
  isSpent_of_inert fun _ _ _ _ => by simp [mark, h]

/-- One tree without a selected node is enough. -/
theorem isSpent_of_selectedNodes {s : Selection} {version : Int}
    (h : (markedBuild d version s).tree.selectedNodes = []) : s.IsSpent d := by
  intro w
  rw [← firstSelected?_eq_none_iff] at h ⊢
  rw [firstSelected?_markedBuild d s w version, h]

variable (version : Int) (s : Selection)

/-- A selection is spent as soon as a tree was built for it. -/
theorem isSpent_after_build : (s.after (Arena.ofDocument d) (.build version)).IsSpent d := by
  rw [after_build]
  rcases markedBuild_cases d version s with ⟨hnone, _, hs⟩ | ⟨_, _, _, _, hs⟩
  · rw [hs]
    exact isSpent_of_selectedNodes hnone
  · rw [hs]
    exact isSpent_of_resolved rfl

theorem resolved_after_build :
    (s.after (Arena.ofDocument d) (.build version)).resolved = true ↔
      s.resolved = true ∨ (markedBuild d version s).tree.selectedNodes ≠ [] := by
  rw [after_build]
  rcases markedBuild_cases d version s with ⟨hnone, _, hs⟩ | ⟨_, _, hone, _, hs⟩
  · rw [hs, hnone]
    simp
  · rw [hs, hone]
    simp

end Spent

/-- Since the last of the selects among some steps a build has marked a node. -/
def Marked (a : Arena) (steps : List SelectionStep) : Prop :=
  ∃ before version builds, steps = before ++ .build version :: builds ∧
    selectedIndices builds = [] ∧
    ∃ b, buildSelected? a version (run a before) = some b ∧ b.tree.selectedNodes ≠ []

section Run

variable {d : Document} (steps : List SelectionStep)

theorem isSpent_run (h : ∀ before index, steps ≠ before ++ [.select index]) :
    (run (Arena.ofDocument d) steps).IsSpent d := by
  cases steps using List.reverseRecOn with
  | nil => exact isSpent_of_isEmpty rfl
  | append_singleton steps step =>
    rw [run_append_singleton]
    cases step with
    | select index => exact absurd rfl (h steps index)
    | build version => exact isSpent_after_build version _

theorem not_marked_append_select (a : Arena) (index : Option Int) :
    ¬ Marked a (steps ++ [.select index]) := by
  rintro ⟨before, version, builds, heq, hbuilds, _⟩
  cases builds using List.reverseRecOn with
  | nil => simpa using (List.append_inj' heq rfl).2
  | append_singleton builds step =>
    rw [← List.cons_append, ← List.append_assoc] at heq
    obtain rfl : SelectionStep.select index = step := by
      simpa using (List.append_inj' heq rfl).2
    simp [selectedIndices_append_select] at hbuilds

theorem marked_append_build (version : Int) :
    Marked (Arena.ofDocument d) (steps ++ [.build version]) ↔
      Marked (Arena.ofDocument d) steps ∨
        (markedBuild d version (run (Arena.ofDocument d) steps)).tree.selectedNodes ≠ [] := by
  constructor
  · rintro ⟨before, v, builds, heq, hbuilds, b, hb, hmarked⟩
    cases builds using List.reverseRecOn with
    | nil =>
      obtain ⟨rfl, hlast⟩ := List.append_inj' heq rfl
      obtain rfl : version = v := by simpa using hlast
      rw [buildSelected?_ofDocument, Option.some_inj] at hb
      subst hb
      exact .inr hmarked
    | append_singleton builds step =>
      rw [← List.cons_append, ← List.append_assoc] at heq
      obtain ⟨rfl, _⟩ := List.append_inj' heq rfl
      rw [selectedIndices_append, List.append_eq_nil_iff] at hbuilds
      exact .inl ⟨before, v, builds, rfl, hbuilds.1, b, hb, hmarked⟩
  · rintro (⟨before, v, builds, rfl, hbuilds, hmarked⟩ | hmarked)
    · refine ⟨before, v, builds ++ [.build version], by simp, ?_, hmarked⟩
      rw [selectedIndices_append_build, hbuilds]
    · exact ⟨steps, version, [], rfl, rfl, _, buildSelected?_ofDocument d version _, hmarked⟩

/-- A select that is accepted takes the resolution back; a build that marks a node brings it. -/
theorem resolved_run
    (h : ∀ index ∈ selectedIndices steps, (Arena.ofDocument d).admits index = true) :
    (run (Arena.ofDocument d) steps).resolved = true ↔ Marked (Arena.ofDocument d) steps := by
  induction steps using List.reverseRecOn with
  | nil =>
    refine iff_of_false (by simp [run]) ?_
    rintro ⟨before, version, builds, heq, _⟩
    simp at heq
  | append_singleton steps step ih =>
    rw [run_append_singleton]
    cases step with
    | select index =>
      rw [selectedIndices_append_select] at h
      rw [after, select_of_admits (h index (by simp))]
      exact iff_of_false Bool.false_ne_true (not_marked_append_select steps _ index)
    | build version =>
      rw [selectedIndices_append_build] at h
      rw [resolved_after_build, marked_append_build, ih h]

end Run

end Selection

/-- What a build does for the selection that some steps have left. -/
structure MarksOnce (a : Arena) (steps : List SelectionStep) (version : Int)
    (b : Build Overlay) : Prop where
  index_eq : b.state.selection.index = (Selection.run a steps).index
  ancestors_eq : b.state.selection.ancestors = (Selection.run a steps).ancestors
  /-- At most one node is marked, and no other is selected. -/
  length_le : b.tree.selectedNodes.length ≤ 1
  length_marks : b.state.marks.length = b.tree.selectedNodes.length
  /-- The first build after a select is the one for a fresh selection with the same select. For
  any other version the selected node stands at the same place. -/
  first_eq : ∀ before index, steps = before ++ [.select index] →
    buildSelected? a version (({} : Selection).select a index).1 = some b ∧
    ∀ w, ∃ c, buildSelected? a w (({} : Selection).select a index).1 = some c ∧
      c.tree.firstSelected? = b.tree.firstSelected?
  /-- Any other build selects nothing. -/
  later_eq : (∀ before index, steps ≠ before ++ [.select index]) → b.tree.selectedNodes = []

/-- Trees are built again and again for one selection, and each of its selects is accepted. Every
build succeeds and changes neither the number nor what encloses its entity. Only the first after
a select can mark a node: one at most, where it would be marked for a fresh selection. The
selection is resolved from a build that has marked a node until the next select. -/
theorem buildSelected?_marks_once (d : Document) (steps : List SelectionStep)
    (hadmits : ∀ index ∈ selectedIndices steps, (Arena.ofDocument d).admits index = true) :
    let a := Arena.ofDocument d
    let s := Selection.run a steps
    (s.resolved = true ↔ Selection.Marked a steps) ∧
      ∀ version, ∃ b, buildSelected? a version s = some b ∧ MarksOnce a steps version b := by
  intro a s
  refine ⟨Selection.resolved_run steps hadmits, fun version =>
    ⟨_, buildSelected?_ofDocument d version s, ?_⟩⟩
  have hcases := markedBuild_cases d version s
  constructor
  case index_eq => rw [selection_markedBuild]
  case ancestors_eq => rw [selection_markedBuild]
  case length_le =>
    rcases hcases with ⟨hnodes, _⟩ | ⟨_, _, hnodes, _⟩ <;> simp [hnodes]
  case length_marks =>
    rcases hcases with ⟨hnodes, hmarks, _⟩ | ⟨_, _, hnodes, hmarks, _⟩ <;> simp [hnodes, hmarks]
  case first_eq =>
    intro before index heq
    have hindex : a.admits index = true := by
      refine hadmits index ?_
      rw [heq, selectedIndices_append_select]
      simp
    have hs : (({} : Selection).select a index).1 = s := by
      rw [Selection.select_of_admits hindex, show s = Selection.run a steps from rfl, heq,
        Selection.run_append_singleton, Selection.after, Selection.select_of_admits hindex]
    rw [hs]
    refine ⟨buildSelected?_ofDocument d version s, fun w =>
      ⟨_, buildSelected?_ofDocument d w s, firstSelected?_markedBuild d s w version⟩⟩
  case later_eq =>
    intro hsteps
    exact Selection.isSpent_run steps hsteps version

/-- The arrow of an access is selected, and the first tree has the access marked. The second one,
for an older version, has no selected node. -/
theorem marksOnce_propertyStatement :
    let a := Arena.ofDocument propertyStatement
    let steps := [SelectionStep.select (some 6), .build 80]
    (∀ index ∈ selectedIndices steps, a.admits index = true) ∧
      Selection.Marked a steps ∧
      ∃ b, buildSelected? a 70 (Selection.run a steps) = some b ∧ MarksOnce a steps 70 b ∧
        b.tree.selectedNodes = [] := by
  intro a steps
  have hadmits : ∀ index ∈ selectedIndices steps, a.admits index = true := by decide
  have hresolved : (Selection.run a steps).resolved = true := by decide +kernel
  obtain ⟨hmarked, hbuilds⟩ := buildSelected?_marks_once propertyStatement steps hadmits
  obtain ⟨b, hb, honce⟩ := hbuilds 70
  refine ⟨hadmits, hmarked.1 hresolved, b, hb, honce, honce.later_eq ?_⟩
  intro before index heq
  simpa [steps] using congrArg List.getLast? heq

end SyntaxCursor.Conversion
