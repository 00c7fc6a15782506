import Mathlib.Data.List.Induction
import SyntaxCursor.Proofs.Encoding
import SyntaxCursor.Proofs.Requests

/-!
# A selection over a whole run

One selection may be used again and again: entities are selected, and trees are built for it.
It is faithful if its number is that of an entity and it holds just what encloses this entity.
Selecting sets the number before it is known to be one of an entity, so a refused select leaves
the new number beside what the last accepted one has set, and a selection is faithful just if
the last select of its run was accepted (`isFaithful_run_iff`).
-/
namespace SyntaxCursor.Concrete.Arena

/-- Whether a number is that of an entity, or there is no number. -/
def admits (a : Arena) (index : Option Int) : Bool := index.all fun i => (a.resolve? i).isSome

/-- What encloses the entity of a number; nothing if no entity has it. -/
def enclosing (a : Arena) (index : Option Int) : List Nat :=
  ((index.bind a.resolve?).map a.ancestors).getD []

end SyntaxCursor.Concrete.Arena

namespace SyntaxCursor.Conversion

open Abstract Concrete

/-- Something that is done with a selection. -/
inductive SelectionStep where
  /-- An entity is selected, or none. -/
  | select (index : Option Int)
  /-- A tree is built in which the node of the selection is marked. -/
  | build (version : Int)

/-- What a step selects, if it is a select. -/
def SelectionStep.index? : SelectionStep → Option (Option Int)
  | select index => some index
  | build _ => none

/-- What the selects among some steps select, in order. -/
def selectedIndices (steps : List SelectionStep) : List (Option Int) :=
  steps.filterMap SelectionStep.index?

namespace Selection

/-- The number of a selection, if it has one, is that of an entity, and it holds just the
entities that enclose this one. -/
def IsFaithful (s : Selection) (a : Arena) : Prop :=
  match s.index with
  | none => s.ancestors = []
  | some i => ∃ k, a.resolve? i = some k ∧ ∀ j, j ∈ s.ancestors ↔ j ≠ k ∧ a.Reaches j k

def after (a : Arena) (s : Selection) : SelectionStep → Selection
  | .select index => (s.select a index).1
  | .build version => ((buildSelected? a version s).map (·.state.selection)).getD s

/-- The selection after some steps, which begin with a fresh one. -/
def run (a : Arena) (steps : List SelectionStep) : Selection := steps.foldl (after a) {}

end Selection

section State

variable {σ : Type} {P : σ → Prop} {hook : Finish σ}

mutual

/-- What a hook keeps at each entity, it keeps over a tree. -/
theorem state_treeItems (hhook : ∀ e is s, P s → P (hook e is s).2) (source : List UInt8)
    (version : Int) (parent : Option Nat) (k : Nat) (t : ParseTree) {s : σ} (hs : P s) :
    P (treeItems source version hook parent k t s).2 := by
  match t with
  | .node info children =>
    cases hm : info.isMissing with
    | true =>
      rw [treeItems_of_isMissing hm]
      exact hhook _ _ _ hs
    | false =>
      cases ht : parent.isSome && children.isEmpty && !info.isError with
      | true =>
        rw [treeItems_of_isToken hm ht]
        exact hhook _ _ _ hs
      | false =>
        rw [treeItems_of_isNode hm ht]
        exact hhook _ _ _ (state_forestItems hhook source version k (k + 1) children hs)

theorem state_forestItems (hhook : ∀ e is s, P s → P (hook e is s).2) (source : List UInt8)
    (version : Int) (parent next : Nat) (ts : List ParseTree) {s : σ} (hs : P s) :
    P (forestItems source version hook parent next ts s).2 := by
  match ts with
  | [] => simpa using hs
  | t :: ts =>
    have hfirst := state_treeItems hhook source version (some parent) next t hs
    have hrest := state_forestItems hhook source version parent (next + t.size) ts hfirst
    simpa [forestItems_cons] using hrest

end

end State

/-- A build resolves a selection if it marks something, and changes nothing else about it. -/
theorem selection_markedBuild (d : Document) (version : Int) (s : Selection) :
    (markedBuild d version s).state.selection =
      { s with resolved := s.resolved || !(markedBuild d version s).state.marks.isEmpty } := by
  let P (o : Overlay) : Prop :=
    o.selection = { s with resolved := s.resolved || !o.marks.isEmpty }
  have hmark : ∀ e is o, P o → P (mark e is o).2 := by
    intro e is o ho
    simp only [mark]
    split
    · exact ho
    · cases singleNode? is with
      | none => exact ho
      | some n => simp [P, show o.selection = _ from ho]
  have hstart : P { selection := s } := by simp [P]
  exact state_treeItems hmark d.source version none 0 d.tree hstart

namespace Selection

section Step

variable {a : Arena} {d : Document} {index : Option Int}

theorem select_of_admits (h : a.admits index = true) (s : Selection) :
    s.select a index = ({ index, ancestors := a.enclosing index }, true) := by
  cases index with
  | none => rfl
  | some i =>
    obtain ⟨k, hk⟩ := Option.isSome_iff_exists.1 (show (a.resolve? i).isSome = true from h)
    simp [select, Arena.enclosing, hk]

/-- A refused select sets the number all the same. -/
theorem select_of_not_admits (h : a.admits index = false) (s : Selection) :
    s.select a index = ({ s with index }, false) := by
  cases index with
  | none => contradiction
  | some i =>
    have hnone : a.resolve? i = none := by simpa [Arena.admits] using h
    simp [select, hnone]

theorem snd_select (s : Selection) : (s.select a index).2 = a.admits index := by
  cases h : a.admits index with
  | true => rw [select_of_admits h]
  | false => rw [select_of_not_admits h]

theorem after_build (version : Int) (s : Selection) :
    s.after (Arena.ofDocument d) (.build version) = (markedBuild d version s).state.selection := by
  rw [after, buildSelected?_ofDocument, Option.map_some, Option.getD_some]

/-- Whether a selection is faithful is a matter of its number and of what it holds. -/
theorem isFaithful_congr {s s' : Selection} (hindex : s.index = s'.index)
    (hancestors : s.ancestors = s'.ancestors) : s.IsFaithful a ↔ s'.IsFaithful a := by
  rw [IsFaithful, IsFaithful, hindex, hancestors]

theorem isFaithful_after_build (version : Int) (s : Selection) :
    (s.after (Arena.ofDocument d) (.build version)).IsFaithful (Arena.ofDocument d) ↔
      s.IsFaithful (Arena.ofDocument d) := by
  rw [after_build, selection_markedBuild]
  exact isFaithful_congr rfl rfl

/-- A select gives a faithful selection just if it is not refused, whatever was there before. -/
theorem isFaithful_select_iff (s : Selection) :
    (s.select (Arena.ofDocument d) index).1.IsFaithful (Arena.ofDocument d) ↔
      (Arena.ofDocument d).admits index = true := by
  cases h : (Arena.ofDocument d).admits index with
  | true =>
    rw [select_of_admits h]
    cases index with
    | none => simp [IsFaithful, Arena.enclosing]
    | some i =>
      obtain ⟨k, hk⟩ := Option.isSome_iff_exists.1
        (show ((Arena.ofDocument d).resolve? i).isSome = true from h)
      simp [IsFaithful, Arena.enclosing, hk, Arena.mem_ancestors_iff]
  | false =>
    rw [select_of_not_admits h]
    cases index with
    | none => contradiction
    | some i =>
      have hnone : (Arena.ofDocument d).resolve? i = none := by simpa [Arena.admits] using h
      simp [IsFaithful, hnone]

end Step

section Run

variable (a : Arena) (d : Document) (steps : List SelectionStep)

theorem run_append_singleton (step : SelectionStep) :
    run a (steps ++ [step]) = (run a steps).after a step := by
  simp [run]

end Run

end Selection

theorem selectedIndices_append_select (steps : List SelectionStep) (index : Option Int) :
    selectedIndices (steps ++ [.select index]) = selectedIndices steps ++ [index] := by
  simp [selectedIndices, SelectionStep.index?]

theorem selectedIndices_append_build (steps : List SelectionStep) (version : Int) :
    selectedIndices (steps ++ [.build version]) = selectedIndices steps := by
  simp [selectedIndices, SelectionStep.index?]

namespace Selection

section Run

variable (d : Document) (steps : List SelectionStep)

/-- The number of a selection is the one given last, whether it was refused or not. -/
theorem index_run : (run (Arena.ofDocument d) steps).index =
    (selectedIndices steps).getLast?.join := by
  induction steps using List.reverseRecOn with
  | nil => rfl
  | append_singleton steps step ih =>
    rw [run_append_singleton]
    cases step with
    | select index =>
      rw [selectedIndices_append_select, List.getLast?_concat, after]
      cases h : (Arena.ofDocument d).admits index with
      | true => rw [select_of_admits h]; rfl
      | false => rw [select_of_not_admits h]; rfl
    | build version =>
      rw [selectedIndices_append_build, ← ih, after_build, selection_markedBuild]

/-- What a selection holds encloses the entity of the number accepted last. -/
theorem ancestors_run : (run (Arena.ofDocument d) steps).ancestors =
    (Arena.ofDocument d).enclosing
      ((selectedIndices steps).filter (Arena.ofDocument d).admits).getLast?.join := by
  induction steps using List.reverseRecOn with
  | nil => rfl
  | append_singleton steps step ih =>
    rw [run_append_singleton]
    cases step with
    | select index =>
      rw [selectedIndices_append_select, List.filter_append, after]
      cases h : (Arena.ofDocument d).admits index with
      | true => simp [select_of_admits h, h]
      | false => simp [select_of_not_admits h, h, ih]
    | build version =>
      rw [selectedIndices_append_build, ← ih, after_build, selection_markedBuild]

theorem isFaithful_run : (run (Arena.ofDocument d) steps).IsFaithful (Arena.ofDocument d) ↔
    ∀ index, (selectedIndices steps).getLast? = some index →
      (Arena.ofDocument d).admits index = true := by
  induction steps using List.reverseRecOn with
  | nil => simp [run, IsFaithful, selectedIndices]
  | append_singleton steps step ih =>
    rw [run_append_singleton]
    cases step with
    | select index =>
      rw [after, isFaithful_select_iff, selectedIndices_append_select, List.getLast?_concat]
      simp
    | build version =>
      rw [isFaithful_after_build, ih, selectedIndices_append_build]

end Run

end Selection

/-- A selection is faithful after a run just if the last select of the run was accepted. Its
number is the one given last, and what it holds encloses the entity of the number accepted last.
So every refused select leaves a selection that is not faithful: the number is set, and all else
stays as it was. A build always succeeds; it resolves the selection if it marks a node, and
changes nothing else about it. -/
theorem isFaithful_run_iff (d : Document) (steps : List SelectionStep) :
    let a := Arena.ofDocument d
    let s := Selection.run a steps
    let given := selectedIndices steps
    (s.IsFaithful a ↔ ∀ index, given.getLast? = some index → a.admits index = true) ∧
      s.index = given.getLast?.join ∧
      s.ancestors = a.enclosing (given.filter a.admits).getLast?.join ∧
      (∀ index, (s.select a index).2 = false →
        (s.select a index).1 = { s with index } ∧ ¬ (s.select a index).1.IsFaithful a) ∧
      ∀ version, ∃ b, buildSelected? a version s = some b ∧
        b.state.selection = { s with resolved := s.resolved || !b.state.marks.isEmpty } := by
  intro a s given
  refine ⟨Selection.isFaithful_run d steps, Selection.index_run d steps,
    Selection.ancestors_run d steps, ?_, ?_⟩
  · intro index hrefused
    rw [Selection.snd_select] at hrefused
    refine ⟨by rw [Selection.select_of_not_admits hrefused], ?_⟩
    rw [Selection.isFaithful_select_iff, hrefused]
    exact Bool.false_ne_true
  · intro version
    exact ⟨_, buildSelected?_ofDocument d version s, selection_markedBuild d version s⟩

/-- After a refused select the number is that of no entity, but what encloses the arrow of an
access is still there: the next build marks a node for the earlier select. -/
theorem not_isFaithful_run_refused :
    let a := Arena.ofDocument propertyStatement
    let s := Selection.run a [.select (some 6), .select (some 99)]
    s = { index := some 99, ancestors := [2, 1, 0] } ∧ a.resolve? 99 = none ∧
      ¬ s.IsFaithful a ∧
      ∃ b, buildSelected? a 80 s = some b ∧ b.state.selection.resolved = true ∧
        b.tree.nodes.map (·.info.selected) = [false, true, false] := by
  intro a s
  have hrefused : a.resolve? 99 = none := by decide
  have hancestors : a.ancestors 6 = [2, 1, 0] := by
    have h6 : a.parent? 6 = some 2 := rfl
    have h2 : a.parent? 2 = some 1 := rfl
    have h1 : a.parent? 1 = some 0 := rfl
    have h0 : a.parent? 0 = none := rfl
    rw [Arena.ancestors_of_parent?_eq_some h6, Arena.ancestors_of_parent?_eq_some h2,
      Arena.ancestors_of_parent?_eq_some h1, Arena.ancestors_of_parent?_eq_none h0]
  have hs : s = { index := some 99, ancestors := [2, 1, 0] } := by
    rw [← hancestors]
    rfl
  refine ⟨hs, hrefused, ?_, _, buildSelected?_ofDocument _ _ _, ?_, ?_⟩
  · rw [hs]
    rintro ⟨k, hk, _⟩
    rw [hrefused] at hk
    contradiction
  · rw [hs]
    rfl
  · rw [hs]
    rfl

end SyntaxCursor.Conversion
