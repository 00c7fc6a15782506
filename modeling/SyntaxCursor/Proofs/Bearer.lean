import SyntaxCursor.Proofs.Marking

/-!
# Which node a request marks

Among the entities of an arena the bearer of a selection is the first on the chain from the
located entity to the root that yields a node of its own (`bearer?`). This is the bearer that
the recursion on the tree finds (`treeBearer?_eq`), so the node of the bearer is selected when
the tree is built, and no other. Enforcing a single selection afterwards finds nothing to do.
-/
namespace SyntaxCursor.Conversion

open Abstract Concrete

variable {π : Type} [SelectionPolicy π]

def isCut (a : Arena) (i : Nat) : Bool :=
  (a.ancestors i).any fun j => (a.entity? j).any (·.isMissing)

/-- The node that an entity becomes, if it becomes a single one and is not below a missing
entity. -/
def yield? (a : Arena) (version : Int) (k : Nat) : Option Node :=
  if isCut a k then none else (itemsAt? a version k).bind singleNode?

/-- An entity and the node that it yields. -/
def bearing? (a : Arena) (version : Int) (k : Nat) : Option (Entity × Node) :=
  (a.entity? k).bind fun e => (yield? a version k).map fun n => (e, n)

/-- The first entity from `i` on towards the root that yields a node, together with this node. -/
def bearer? (a : Arena) (version : Int) (i : Nat) : Option (Entity × Node) :=
  (a.chain i).findSome? (bearing? a version)

section Arena

variable {a : Arena}

theorem isCut_of_parent? {i p : Nat} {e : Entity} (h : a.parent? i = some p)
    (he : a.entity? p = some e) : isCut a i = (e.isMissing || isCut a p) := by
  rw [isCut, Arena.ancestors_of_parent?_eq_some h, List.any_cons, isCut, he]
  rfl

theorem isCut_of_mem_ancestors {i p : Nat} {e : Entity} (h : p ∈ a.ancestors i)
    (he : a.entity? p = some e) (hm : e.isMissing = true) : isCut a i = true := by
  rw [isCut, List.any_eq_true]
  exact ⟨p, h, by simp [he, hm]⟩

theorem bearing?_of_isCut {k : Nat} (h : isCut a k = true) (version : Int) :
    bearing? a version k = none := by
  cases he : a.entity? k with
  | none => rw [bearing?, he, Option.bind_none]
  | some e => simp [bearing?, he, yield?, h]

theorem bearing?_of_holds {parent : Option Nat} {k : Nat} {t : ParseTree}
    (h : a.Holds parent k t) (hsize : k + t.size ≤ a.size) (hcut : isCut a k = false)
    (version : Int) : bearing? a version k = rootBearer? a.source version parent k t := by
  rw [bearing?, h.entity?_eq, yield?, if_neg (by simp [hcut]), itemsAt?_eq h (by omega),
    Option.bind_some, Option.bind_some, rootBearer?]

variable {i : Nat} (version : Int)

mutual

theorem treeBearer?_eq {parent : Option Nat} {k : Nat} {t : ParseTree} (h : a.Holds parent k t)
    (hsize : k + t.size ≤ a.size) (hcut : isCut a k = false) (hk : k ≤ i)
    (hi : i < k + t.size) :
    treeBearer? a.source version i parent k t =
      (t.pathTo i k).findSome? (bearing? a version) := by
  have hroot := bearing?_of_holds h hsize hcut version
  match t with
  | .node info children =>
    obtain ⟨he, hchildren⟩ := Arena.holds_node.1 h
    rw [ParseTree.pathTo_node]
    by_cases hik : i = k
    · rw [if_pos hik, treeBearer?_of_stop (Or.inl hik), ← hroot, List.findSome?_singleton]
    rw [if_neg hik, List.findSome?_append, List.findSome?_singleton, hroot]
    rw [ParseTree.size_node] at hsize hi
    cases hm : info.isMissing with
    | true =>
      have hnone : (ParseTree.pathToList i (k + 1) children).findSome? (bearing? a version) =
          none := by
        rw [List.findSome?_eq_none_iff]
        intro j hj
        have hrange := ParseTree.mem_pathToList hj
        have hancestor : k ∈ a.ancestors j :=
          h.mem_ancestors (by omega) (by rw [ParseTree.size_node]; omega)
        exact bearing?_of_isCut (isCut_of_mem_ancestors hancestor he hm) version
      rw [treeBearer?_of_stop (Or.inr hm), hnone, Option.none_or]
    | false =>
      have hbelow : ∀ c, a.parent? c = some k → isCut a c = false := by
        intro c hc
        rw [isCut_of_parent? hc he, hcut, Bool.or_false]
        exact hm
      rw [treeBearer?_of_below hik hm,
        forestBearer?_eq hchildren (by omega) hbelow (by omega) (by omega)]

theorem forestBearer?_eq {parent next : Nat} {ts : List ParseTree}
    (h : a.HoldsList parent next ts) (hsize : next + ParseTree.sizes ts ≤ a.size)
    (hcut : ∀ c, a.parent? c = some parent → isCut a c = false) (hn : next ≤ i)
    (hi : i < next + ParseTree.sizes ts) :
    forestBearer? a.source version i parent next ts =
      (ParseTree.pathToList i next ts).findSome? (bearing? a version) := by
  match ts with
  | [] => simp
  | t :: ts =>
    obtain ⟨ht, hts⟩ := Arena.holdsList_cons.1 h
    rw [ParseTree.sizes_cons] at hsize hi
    rw [ParseTree.pathToList_cons]
    by_cases hit : i < next + t.size
    · rw [if_pos hit, forestBearer?_cons_of_lt hit]
      exact treeBearer?_eq ht (by omega) (hcut next ht.parent?_eq) hn hit
    · rw [if_neg hit, forestBearer?_cons_of_le (by omega)]
      exact forestBearer?_eq hts (by omega) hcut (by omega) (by omega)

end

end Arena

theorem isCut_zero (d : Document) : isCut (Arena.ofDocument d) 0 = false := by
  rw [isCut, Arena.ancestors_zero]
  rfl

theorem bearer?_ofDocument (d : Document) (version : Int) {i : Nat}
    (hi : i < (Arena.ofDocument d).size) :
    bearer? (Arena.ofDocument d) version i =
      treeBearer? d.source version i none 0 d.tree := by
  rw [bearer?, Arena.chain_ofDocument d hi]
  rw [Arena.size_ofDocument] at hi
  exact (treeBearer?_eq version (Arena.holds_ofDocument d) (by simp) (isCut_zero d)
    (Nat.zero_le i) (by omega)).symm

/-- The plain conversion of a document with the node of entity `j` flagged. -/
def flaggedBuild (d : Document) (version : Int) (j : Nat) : Build Unit :=
  { tree := rootNode d.tree.info (treeItems d.source version (flagAt j) none 0 d.tree ()).1
    diagnostics := treeReports d.tree
    state := () }

theorem build?_flagAt (d : Document) (version : Int) (j : Nat) :
    build? (Arena.ofDocument d) version (flagAt j) () = some (flaggedBuild d version j) :=
  build?_ofDocument d version (flagAt j) ()

section Request

variable (policy : π) (version offset : Int) (d : Document)

/-- The bearer of the selection that a request makes, if it has one. -/
def bearerAt? : Option (Entity × Node) :=
  ((Arena.ofDocument d).locate policy offset).bind (bearer? (Arena.ofDocument d) version)

variable {policy version offset d}

theorem concerns_selectionAt {a : Arena} {i : Nat} (h : a.locate policy offset = some i)
    (j : Nat) : (selectionAt a policy offset).concerns j = true ↔ j ∈ a.chain i := by
  have hindex : (some (i : Int) == some (j : Int)) = true ↔ j = i := by
    rw [beq_iff_eq, Option.some.injEq]
    omega
  rw [selectionAt, h, Arena.chain, List.mem_cons, Selection.concerns, Bool.or_eq_true, hindex,
    List.contains_iff_mem]

/-- The selection of a request waits for a node on the way up from the located entity. -/
theorem awaits_selectionAt {i : Nat} (h : (Arena.ofDocument d).locate policy offset = some i) :
    Overlay.Awaits { selection := selectionAt (Arena.ofDocument d) policy offset }
      (d.tree.pathTo i 0) 0 (0 + d.tree.size) where
  nonempty := by rw [selectionAt, h]; rfl
  unresolved := by rw [selectionAt, h]
  concerns_iff := by
    intro j _ _
    rw [concerns_selectionAt h, Arena.chain_ofDocument d (Arena.locate_lt h)]

theorem buildAt_of_bearerAt?_eq_none (h : bearerAt? policy version offset d = none) :
    (buildAt policy version offset d).tree = (plainBuild d version).tree := by
  rw [buildAt, markedBuild, plainBuild]
  cases hlocate : (Arena.ofDocument d).locate policy offset with
  | none =>
    have hinert : Inert mark { selection := selectionAt (Arena.ofDocument d) policy offset } 0
        (0 + d.tree.size) := by
      intro e is _ _
      rw [selectionAt, hlocate]
      rfl
    rw [treeItems_of_inert d.source version hinert]
  | some i =>
    have hlt := Arena.locate_lt hlocate
    rw [bearerAt?, hlocate, Option.bind_some, bearer?_ofDocument d version hlt] at h
    rw [Arena.size_ofDocument] at hlt
    rw [mark_treeItems d.source version i none 0 d.tree (Nat.zero_le i) (by omega)
      (awaits_selectionAt hlocate), h, treeMarked]

theorem buildAt_of_bearerAt?_eq_some {e : Entity} {n : Node}
    (h : bearerAt? policy version offset d = some (e, n)) :
    (buildAt policy version offset d).tree = (flaggedBuild d version e.index).tree ∧
      (buildAt policy version offset d).tree.selectedNodes = [n.select] := by
  obtain ⟨i, hlocate, hbearer⟩ := Option.bind_eq_some_iff.1 h
  have hlt := Arena.locate_lt hlocate
  rw [bearer?_ofDocument d version hlt] at hbearer
  rw [Arena.size_ofDocument] at hlt
  rw [buildAt, markedBuild, mark_treeItems d.source version i none 0 d.tree (Nat.zero_le i)
    (by omega) (awaits_selectionAt hlocate), hbearer, treeMarked]
  refine ⟨rfl, ?_⟩
  rw [selectedNodes_rootNode]
  exact selectedIn_of_treeBearer? hbearer

/-- The node of the bearer is all that is selected while a tree is built. -/
theorem selectedNodes_buildAt (policy : π) (version offset : Int) (d : Document) :
    (buildAt policy version offset d).tree.selectedNodes =
      (bearerAt? policy version offset d).toList.map (·.2.select) := by
  cases h : bearerAt? policy version offset d with
  | none => rw [buildAt_of_bearerAt?_eq_none h, selectedNodes_plainBuild, Option.toList_none,
      List.map_nil]
  | some b => rw [(buildAt_of_bearerAt?_eq_some h).2, Option.toList_some, List.map_singleton]

end Request

/-- Where at most one node is selected, nothing has to be enforced. -/
theorem enforceSingle_of_le {tree : Node} (h : tree.selectedNodes.length ≤ 1) :
    enforceSingle tree = (tree, tree.firstSelected?, []) := by
  rw [enforceSingle, Node.selectedCount_eq, if_neg (by omega)]

theorem enforceSingle_buildAt (policy : π) (version offset : Int) (d : Document) :
    enforceSingle (buildAt policy version offset d).tree =
      ((buildAt policy version offset d).tree,
        (buildAt policy version offset d).tree.firstSelected?, []) := by
  refine enforceSingle_of_le ?_
  rw [selectedNodes_buildAt]
  cases bearerAt? policy version offset d <;> simp

theorem tree_resultAt (policy : π) (version offset : Int) (d : Document) :
    (resultAt policy version offset d).tree = (buildAt policy version offset d).tree := by
  rw [resultAt, enforceSingle_buildAt]

theorem selected_resultAt (policy : π) (version offset : Int) (d : Document) :
    (resultAt policy version offset d).selected =
      (buildAt policy version offset d).tree.firstSelected? := by
  rw [resultAt, enforceSingle_buildAt]

/-- The selected node of a request is the flagged node of its bearer. -/
theorem selectedNode_resultAt (policy : π) (version offset : Int) (d : Document) :
    (resultAt policy version offset d).selectedNode =
      (bearerAt? policy version offset d).map (·.2.select) := by
  rw [Result.selectedNode, tree_resultAt, selected_resultAt, Node.getElem?_firstSelected?,
    selectedNodes_buildAt]
  cases bearerAt? policy version offset d <;> rfl

section Convert

variable (c : Converter π) {r : Request} {version : Int}
  (hv : r.version.supported? = some version) (hp : r.parserFailure = none)

include hv hp

/-- No request finds more selected nodes than one. -/
theorem not_extraSelections_of_mem_notices {notice : Notice}
    (h : notice ∈ (c.convert r).notices) (count : Nat) :
    notice.incident ≠ .extraSelections count := by
  rw [Converter.convert_of_parsed c hv hp] at h
  dsimp only at h
  rw [noticesAt, enforceSingle_buildAt, Converter.staleNotices] at h
  simp only [searchingAt, List.map_nil, List.append_nil, List.mem_append, List.mem_cons,
    List.mem_map] at h
  rcases h with h | rfl | rfl | ⟨m, _, rfl⟩
  · by_cases hslot : c.slot.isSome = true
    · rw [if_pos hslot, List.mem_singleton] at h
      simp [h]
    · rw [if_neg hslot] at h
      contradiction
  · simp
  · simp
  · simp

end Convert

/-- A request marks the innermost entity that becomes a single node: of the located entity and
those that enclose it, the first whose items are one node and that is not below a missing
entity. The tree is the one in which the node of this entity is flagged when it is made; its
node is the only selected one, and it is the selected node of the result. If there is no such
entity, or none is located, nothing is selected. All this holds of the tree as it is built:
enforcing a single selection finds nothing to change and nothing to note. -/
theorem convert_marks_bearer (c : Converter π) (r : Request) {version : Int}
    (hv : r.version.supported? = some version) (hp : r.parserFailure = none) :
    let a := Arena.ofDocument r.document
    let located := a.locate c.policy (clampOffset r.offset r.document.source.length)
    ∃ b result,
      buildSelected? a version
        (({} : Selection).select a (located.map fun i => (i : Int))).1 = some b ∧
      (c.convert r).answer = .ok result ∧
      enforceSingle b.tree = (b.tree, result.selected, []) ∧ result.tree = b.tree ∧
      (∀ notice ∈ (c.convert r).notices, ∀ count, notice.incident ≠ .extraSelections count) ∧
      match located.bind (bearer? a version) with
      | none => b.tree.selectedNodes = [] ∧ result.selectedNode = none
      | some (e, n) =>
        (∃ flagged, build? a version (flagAt e.index) () = some flagged ∧
          b.tree = flagged.tree) ∧
        b.tree.selectedNodes = [n.select] ∧ result.selectedNode = some n.select := by
  intro a located
  have hselected := selectedNodes_buildAt c.policy version
    (clampOffset r.offset r.document.source.length) r.document
  have hnode := selectedNode_resultAt c.policy version
    (clampOffset r.offset r.document.source.length) r.document
  refine ⟨_, _, ?_, Converter.answer_convert c hv hp, ?_, tree_resultAt _ _ _ _,
    fun notice h => not_extraSelections_of_mem_notices c hv hp h, ?_⟩
  · rw [select_locate, buildSelected?_ofDocument]
    rfl
  · rw [selected_resultAt]
    exact enforceSingle_buildAt _ _ _ _
  · cases hbearer : located.bind (bearer? a version) with
    | none =>
      rw [bearerAt?, hbearer] at hselected hnode
      exact ⟨hselected, hnode⟩
    | some b =>
      have hbuild := buildAt_of_bearerAt?_eq_some hbearer
      rw [bearerAt?, hbearer] at hnode
      exact ⟨⟨_, build?_flagAt r.document version b.1.index, hbuild.1⟩, hbuild.2, hnode⟩

/-- At the arrow, which itself becomes nothing, the access to the property is marked. -/
theorem convert_marks_propertyStatement :
    let r : Request := { document := propertyStatement, version := .number 80, offset := 2 }
    let access : NodeInfo :=
      { kind := "AST_PROP", line := 1, start := 0, stop := 5, selected := true }
    r.version.supported? = some 80 ∧ r.parserFailure = none ∧
      ∃ result, (convert .standard r).answer = .ok result ∧
        result.tree.selectedNodes.map (·.info) = [access] ∧
        result.selectedNode.map (·.info) = some access := by
  intro r access
  have hmarks := convert_marks_bearer { policy := .standard } r rfl rfl
  have hlocate : (Arena.ofDocument r.document).locate .standard
      (clampOffset r.offset r.document.source.length) = some 6 := by decide +kernel
  have haccess : (treeBearer? r.document.source 80 6 none 0 r.document.tree).map
      (·.2.select.info) = some access := rfl
  obtain ⟨⟨e, n⟩, hbearer, hinfo⟩ := Option.map_eq_some_iff.1 haccess
  dsimp only at hmarks
  rw [hlocate, Option.bind_some, bearer?_ofDocument _ _ (by decide), hbearer] at hmarks
  obtain ⟨b, result, _, hanswer, _, htree, _, _, htrees, hnode⟩ := hmarks
  refine ⟨rfl, rfl, result, by rw [convert, hanswer], ?_, ?_⟩
  · rw [htree, htrees, List.map_singleton, hinfo]
  · rw [hnode, Option.map_some, hinfo]

end SyntaxCursor.Conversion
