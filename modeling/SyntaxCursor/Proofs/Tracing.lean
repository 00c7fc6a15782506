import SyntaxCursor.Proofs.Encoding
import SyntaxCursor.Proofs.Lifecycle

/-!
# The trace of a request

Whoever traces a request is told that the search begins, what has been located, and which node
is marked, in this order and nothing twice. Until a node is marked the selection slot holds a
fresh selection; at the mark it holds the located entity, all that encloses it, and that the
selection is resolved (`convert_traces`). What the slot held before the request, and which step
of the conversion tells of an event, has no part in this.
-/
namespace SyntaxCursor.Conversion

open Abstract Concrete

variable {π : Type} [SelectionPolicy π]

/-- The notices that trace a request, in order; its other notices are errors. -/
def Outcome.trace (o : Outcome π) : List Notice := o.notices.filter (·.incident.isTrace)

/-- A selection of entity `i` that is complete: it has exactly the entities that enclose `i`,
and its node is marked. -/
structure Selection.Settled (s : Selection) (a : Arena) (i : Nat) : Prop where
  index_eq : s.index = some (i : Int)
  mem_ancestors_iff : ∀ j, j ∈ s.ancestors ↔ j ≠ i ∧ a.Reaches j i
  resolved_eq : s.resolved = true

section Marks

variable {a : Arena} {version : Int} {i : Nat} {e : Entity} {n : Node}

/-- The bearer of a selection is the located entity or one that encloses it. -/
theorem mem_chain_of_bearer? (h : bearer? a version i = some (e, n)) :
    ∃ k ∈ a.chain i, a.entity? k = some e := by
  obtain ⟨k, hk, hbearing⟩ := List.exists_of_findSome?_eq_some h
  obtain ⟨e', he, hyield⟩ := Option.bind_eq_some_iff.1 hbearing
  obtain ⟨m, _, heq⟩ := Option.map_eq_some_iff.1 hyield
  obtain ⟨rfl, -⟩ := Prod.mk.inj heq
  exact ⟨k, hk, he⟩

theorem reaches_of_mem_chain {d : Document} {k : Nat} (h : k ∈ (Arena.ofDocument d).chain i) :
    (Arena.ofDocument d).Reaches k i := by
  rcases List.mem_cons.1 h with rfl | h
  · exact Relation.ReflTransGen.refl
  · exact Arena.reaches_of_mem_ancestors d h

/-- The bearer of a selection encloses the located entity, or is that entity. -/
theorem reaches_of_bearer? {d : Document}
    (h : bearer? (Arena.ofDocument d) version i = some (e, n)) :
    (Arena.ofDocument d).entity? e.index = some e ∧
      (Arena.ofDocument d).Reaches e.index i := by
  obtain ⟨k, hk, he⟩ := mem_chain_of_bearer? h
  obtain rfl := Arena.index_of_entity? d he
  exact ⟨he, reaches_of_mem_chain hk⟩

variable {policy : π} {offset : Int} {d : Document}

/-- What is noted while a tree is built: nothing, or the mark of the bearer's node. -/
theorem marks_buildAt (policy : π) (version offset : Int) (d : Document) :
    (buildAt policy version offset d).state.marks =
      (bearerAt? policy version offset d).toList.map fun (e, n) =>
        (.marked n.select.info e,
          { selectionAt (Arena.ofDocument d) policy offset with resolved := true }) := by
  unfold buildAt markedBuild bearerAt?
  cases hlocate : (Arena.ofDocument d).locate policy offset with
  | none =>
    have hinert : Inert mark { selection := selectionAt (Arena.ofDocument d) policy offset } 0
        (0 + d.tree.size) := by
      intro e is _ _
      rw [selectionAt, hlocate]
      rfl
    rw [treeItems_of_inert d.source version hinert]
    rfl
  | some i =>
    have hlt := Arena.locate_lt hlocate
    rw [Option.bind_some, bearer?_ofDocument d version hlt]
    rw [Arena.size_ofDocument] at hlt
    rw [mark_treeItems d.source version i none 0 d.tree (Nat.zero_le i) (by omega)
      (awaits_selectionAt hlocate)]
    cases treeBearer? d.source version i none 0 d.tree with
    | none => rfl
    | some b => rfl

theorem settled_selectionAt (h : (Arena.ofDocument d).locate policy offset = some i) :
    ({ selectionAt (Arena.ofDocument d) policy offset with resolved := true } :
      Selection).Settled (Arena.ofDocument d) i := by
  unfold selectionAt
  rw [h]
  exact ⟨rfl, fun j => Arena.mem_ancestors_iff d, rfl⟩

end Marks

section Convert

variable (c : Converter π) {r : Request} {version : Int}
  (hv : r.version.supported? = some version)

include hv

/-- A request is traced as by a fresh converter. -/
theorem trace_convert : (c.convert r).trace = (convert c.policy r).notices := by
  have hstale : c.staleNotices.filter (·.incident.isTrace) = [] := by
    unfold Converter.staleNotices
    split <;> rfl
  have hfresh : ∀ notice ∈ (convert c.policy r).notices, notice.incident.isTrace = true :=
    fun notice h => isTrace_of_mem_fresh hv h
  rw [convert_eq_fresh c hv, Outcome.trace, List.filter_append, hstale, List.nil_append,
    List.filter_eq_self.2 hfresh]

theorem trace_of_parserFailure {reason : String} (hp : r.parserFailure = some reason) :
    (c.convert r).trace =
      [⟨.event (.searching (clampOffset r.offset r.document.source.length)), some {}⟩] := by
  rw [trace_convert c hv, convert, Converter.convert_of_parserFailure _ hv hp]
  rfl

theorem trace_of_parsed (hp : r.parserFailure = none) :
    (c.convert r).trace =
      ⟨.event (.searching (clampOffset r.offset r.document.source.length)), some {}⟩ ::
        ⟨.event (.located (resultAt c.policy version
          (clampOffset r.offset r.document.source.length) r.document).entity), some {}⟩ ::
          (buildAt c.policy version (clampOffset r.offset r.document.source.length)
            r.document).state.marks.map fun (e, s) => ⟨.event e, some s⟩ := by
  rw [trace_convert c hv, convert, Converter.convert_of_parsed _ hv hp]
  dsimp only
  rw [noticesAt, enforceSingle_buildAt, List.map_nil, List.append_nil]
  rfl

end Convert

/-- Whoever traces a request for a supported version is told of the clamped offset, whatever the
selection slot held before; if the parser fails, of nothing else. Otherwise the located entity
comes next, or that there is none. Then, just if the result has a selected node, this node is
marked, for the located entity or for one that encloses it. Before the mark the slot holds a
fresh selection, and at the mark the settled selection of the located entity. -/
theorem convert_traces (c : Converter π) (r : Request) {version : Int}
    (hv : r.version.supported? = some version) :
    let a := Arena.ofDocument r.document
    let offset := clampOffset r.offset r.document.source.length
    let searching : Notice := ⟨.event (.searching offset), some {}⟩
    match r.parserFailure with
    | some reason =>
      (c.convert r).answer = .error (.parserFailure reason) ∧ (c.convert r).trace = [searching]
    | none =>
      ∃ result marks, (c.convert r).answer = .ok result ∧
        result.entity = (a.locate c.policy offset).bind a.entity? ∧
        (c.convert r).trace =
          searching :: ⟨.event (.located result.entity), some {}⟩ :: marks ∧
        match result.selectedNode with
        | none => marks = []
        | some n =>
          ∃ i e s, a.locate c.policy offset = some i ∧
            marks = [⟨.event (.marked n.info e), some s⟩] ∧ result.tree.selectedNodes = [n] ∧
            a.entity? e.index = some e ∧ a.Reaches e.index i ∧ s.Settled a i := by
  intro a offset searching
  cases hp : r.parserFailure with
  | some reason =>
    refine ⟨?_, trace_of_parserFailure c hv hp⟩
    rw [Converter.convert_of_parserFailure c hv hp]
  | none =>
    refine ⟨_, _, Converter.answer_convert c hv hp, rfl, trace_of_parsed c hv hp, ?_⟩
    rw [selectedNode_resultAt, marks_buildAt, tree_resultAt, selectedNodes_buildAt]
    cases hbearer : bearerAt? c.policy version offset r.document with
    | none => rfl
    | some b =>
      obtain ⟨e, n⟩ := b
      obtain ⟨i, hlocate, hchain⟩ := Option.bind_eq_some_iff.1 hbearer
      obtain ⟨he, hreach⟩ := reaches_of_bearer? hchain
      exact ⟨i, e, _, hlocate, rfl, rfl, he, hreach, settled_selectionAt hlocate⟩

/-- A converter whose slot was left full traces a request at the arrow of an access, which itself
becomes nothing: the access that encloses it is marked. -/
theorem convert_traces_propertyStatement :
    let r : Request := { document := propertyStatement, version := .number 80, offset := 2 }
    let c : Converter := { policy := .standard, slot := some { index := some 9 } }
    let a := Arena.ofDocument r.document
    let access : NodeInfo :=
      { kind := "AST_PROP", line := 1, start := 0, stop := 5, selected := true }
    r.version.supported? = some 80 ∧
      ∃ e s, (c.convert r).trace =
          [⟨.event (.searching 2), some {}⟩, ⟨.event (.located (a.entity? 6)), some {}⟩,
            ⟨.event (.marked access e), some s⟩] ∧
        a.Reaches e.index 6 ∧ s.Settled a 6 := by
  intro r c a access
  have hlocate : a.locate c.policy (clampOffset r.offset r.document.source.length) = some 6 := by
    decide +kernel
  have hv : r.version.supported? = some 80 := rfl
  obtain ⟨result, marks, hanswer, hentity, htrace, hmarks⟩ := convert_traces c r hv
  rw [hlocate] at hentity hmarks
  have haccess : (treeBearer? r.document.source 80 6 none 0 r.document.tree).map
      (·.2.select.info) = some access := rfl
  obtain ⟨⟨e, n⟩, hbearer, hinfo⟩ := Option.map_eq_some_iff.1 haccess
  have hnode : result.selectedNode = some n.select := by
    obtain rfl := Except.ok.inj (hanswer.symm.trans (Converter.answer_convert c rfl rfl))
    rw [selectedNode_resultAt, bearerAt?, hlocate, Option.bind_some,
      bearer?_ofDocument _ _ (by decide), hbearer, Option.map_some]
  rw [hnode] at hmarks
  obtain ⟨i, e, s, hi, rfl, _, _, hreach, hsettled⟩ := hmarks
  obtain rfl := Option.some.inj hi
  exact ⟨hv, e, s, by rw [htrace, hentity, ← hinfo]; rfl, hreach, hsettled⟩

end SyntaxCursor.Conversion
