import Mathlib.Data.List.Forall2
import SyntaxCursor.Proofs.Boundaries
import SyntaxCursor.Proofs.Finished

/-!
# What is reported about a source

A fault is an entity that is missing or that the grammar does not allow, unless it is below a
missing one. The walk reports a fault when it enters it and makes items when it leaves it; still
the reports are those of the faults in the order of their numbers, each of them once
(`reports_tell_of_faults`).
-/
namespace SyntaxCursor.Concrete

/-- Every entity has its span inside the source. -/
def Arena.SpansInside (a : Arena) : Prop :=
  ∀ e ∈ a.entities.toList, e.start ≤ e.stop ∧ e.stop ≤ a.source.length

end SyntaxCursor.Concrete

namespace SyntaxCursor.Conversion

open Abstract Concrete

/-- A report tells of an entity: it says what is wrong with it and where it is. -/
structure Diagnostic.TellsOf (g : Diagnostic) (e : Entity) : Prop where
  message_eq : g.message =
    if e.isMissing then "Missing '" ++ e.kind ++ "'" else "Unexpected syntax"
  start_eq : g.start = e.start
  length_eq : g.length = (e.stop : Int) - e.start
  line_eq : g.line = e.row + 1

/-- A report is about a part of a source of this length. -/
structure Diagnostic.IsInside (g : Diagnostic) (length : Nat) : Prop where
  start_nonneg : 0 ≤ g.start
  length_nonneg : 0 ≤ g.length
  stop_le : g.start + g.length ≤ length

/-- Whether an entity is to be reported. -/
def isFault (a : Arena) (e : Entity) : Bool := (e.isMissing || e.isError) && !isCut a e.index

/-- The entities that are to be reported, in the order of their numbers. -/
def faults (a : Arena) : List Entity := a.entities.toList.filter (isFault a)

def Diagnostic.ofEntity (e : Entity) : Diagnostic :=
  if e.isMissing then .missing e.toParseInfo else .unexpected e.toParseInfo

theorem Diagnostic.tellsOf_ofEntity (e : Entity) : (Diagnostic.ofEntity e).TellsOf e := by
  cases hm : e.isMissing with
  | true => constructor <;> simp [ofEntity, hm, missing, about]
  | false => constructor <;> simp [ofEntity, hm, unexpected, about]

theorem Diagnostic.TellsOf.isInside {g : Diagnostic} {e : Entity} (h : g.TellsOf e) {length : Nat}
    (hle : e.start ≤ e.stop) (hstop : e.stop ≤ length) : g.IsInside length where
  start_nonneg := by rw [h.start_eq]; omega
  length_nonneg := by rw [h.length_eq]; omega
  stop_le := by rw [h.start_eq, h.length_eq]; omega

theorem isCut_eq_false_iff {a : Arena} {i : Nat} : isCut a i = false ↔
    ∀ j ∈ a.ancestors i, ∀ q, a.entity? j = some q → q.isMissing = false := by
  simp only [isCut, List.any_eq_false, Bool.not_eq_true, Option.any_eq_false]

section Holds

variable {a : Arena}

/-- Nothing below a missing entity is a fault. -/
theorem filter_isFault_of_isMissing {parent : Option Nat} {k : Nat} {t : ParseTree}
    (h : a.Holds parent k t) (hm : t.info.isMissing = true) :
    (ParseTree.entitiesList a.source k (k + 1) t.children).filter (isFault a) = [] := by
  rw [List.filter_eq_nil_iff]
  intro e he
  simp [isFault, isCut_of_mem_entitiesList h hm he]

mutual

/-- What is reported about a tree that is not below a missing entity are its faults. -/
theorem treeReports_eq {parent : Option Nat} {k : Nat} {t : ParseTree}
    (h : a.Holds parent k t) (hcut : isCut a k = false) :
    treeReports t =
      ((t.entities a.source parent k).filter (isFault a)).map Diagnostic.ofEntity := by
  match t with
  | .node info children =>
    obtain ⟨he, hchildren⟩ := Arena.holds_node.1 h
    have hroot : isFault a (Entity.ofTree a.source parent k (.node info children)) =
        (info.isMissing || info.isError) := by
      simp [isFault, hcut]
    rw [ParseTree.entities_node, List.filter_cons, hroot]
    cases hm : info.isMissing with
    | true =>
      have hbelow := filter_isFault_of_isMissing h hm
      rw [ParseTree.children_node] at hbelow
      rw [treeReports_of_isMissing hm, hbelow]
      simp [Diagnostic.ofEntity, hm]
    | false =>
      have hbelow := forestReports_eq hchildren fun c hc => isCut_of_child he hm hcut hc
      rw [treeReports_of_not_isMissing hm, hbelow]
      cases herror : info.isError with
      | true => simp [Diagnostic.ofEntity, hm]
      | false => simp

theorem forestReports_eq {parent next : Nat} {ts : List ParseTree}
    (h : a.HoldsList parent next ts)
    (hcut : ∀ c, a.parent? c = some parent → isCut a c = false) :
    forestReports ts =
      ((ParseTree.entitiesList a.source parent next ts).filter (isFault a)).map
        Diagnostic.ofEntity := by
  match ts with
  | [] => simp
  | t :: ts =>
    obtain ⟨ht, hts⟩ := Arena.holdsList_cons.1 h
    rw [forestReports_cons, treeReports_eq ht (hcut next ht.parent?_eq),
      forestReports_eq hts hcut, ParseTree.entitiesList_cons, List.filter_append,
      List.map_append]

end

end Holds

theorem treeReports_tree (d : Document) :
    treeReports d.tree = (faults (Arena.ofDocument d)).map Diagnostic.ofEntity := by
  have h := treeReports_eq (Arena.holds_ofDocument d) (isCut_zero d)
  rw [Arena.source_ofDocument, ← Arena.entities_ofDocument] at h
  exact h

/-- Whatever the version and whatever hook the items pass through, one report is made for each
fault of a document, and no other, in the order of their numbers. If all spans are inside the
source, then so is what is reported. -/
theorem reports_tell_of_faults {σ : Type} (d : Document) (version : Int) (hook : Finish σ)
    (s : σ) :
    let a := Arena.ofDocument d
    ∃ b, build? a version hook s = some b ∧
      List.Forall₂ Diagnostic.TellsOf b.diagnostics (faults a) ∧
      ((faults a).map (·.index)).Pairwise (· < ·) ∧
      (∀ i e, a.entity? i = some e → (e ∈ faults a ↔ (e.isMissing = true ∨ e.isError = true) ∧
        ∀ j ∈ a.ancestors i, ∀ q, a.entity? j = some q → q.isMissing = false)) ∧
      (a.SpansInside → ∀ g ∈ b.diagnostics, g.IsInside d.source.length) := by
  intro a
  have htells : List.Forall₂ Diagnostic.TellsOf (treeReports d.tree) (faults a) := by
    rw [treeReports_tree, List.forall₂_map_left_iff, List.forall₂_same]
    exact fun e _ => Diagnostic.tellsOf_ofEntity e
  refine ⟨_, build?_ofDocument d version hook s, htells, ?_, ?_, ?_⟩
  · exact List.pairwise_map.2 ((Arena.pairwise_index d).filter _)
  · intro i e he
    have hmem := Arena.mem_entities_of_entity? he
    obtain rfl := Arena.index_of_entity? d he
    rw [faults, List.mem_filter, isFault, Bool.and_eq_true, Bool.or_eq_true, Bool.not_eq_true',
      isCut_eq_false_iff]
    exact and_iff_right hmem
  · intro hinside g hg
    rw [treeReports_tree] at hg
    obtain ⟨e, he, rfl⟩ := List.mem_map.1 hg
    obtain ⟨hle, hstop⟩ := hinside e (List.mem_filter.1 he).1
    exact (Diagnostic.tellsOf_ofEntity e).isInside hle hstop

/-- A missing name, an error with something below it and one that is a token are reported. -/
theorem reports_faultyStatement :
    let a := Arena.ofDocument faultyStatement
    a.SpansInside ∧ ∃ b, build? a 80 keep () = some b ∧
      b.diagnostics.map (fun g => (g.message, g.start, g.length)) =
        [("Missing 'name'", 5, 0), ("Unexpected syntax", 5, 1), ("Unexpected syntax", 6, 1)] ∧
      (faults a).length = 3 ∧ ∀ g ∈ b.diagnostics, g.IsInside 8 := by
  intro a
  have hinside : a.SpansInside := by
    unfold Arena.SpansInside
    decide
  obtain ⟨b, hb, htells, _, _, hrange⟩ := reports_tell_of_faults faultyStatement 80 keep ()
  have hdiagnostics : b.diagnostics = treeReports faultyStatement.tree := by
    rw [build?_keep] at hb
    rw [← Option.some.inj hb, plainBuild]
  refine ⟨hinside, b, hb, ?_, ?_, hrange hinside⟩
  · rw [hdiagnostics]
    rfl
  · rw [← htells.length_eq, hdiagnostics]
    rfl

end SyntaxCursor.Conversion
