import SyntaxCursor.Proofs.Coverage
import SyntaxCursor.Proofs.Creators

/-!
# What the target version changes

Only the kinds of nodes depend on the target version. Two conversions of one document, also with
the marking hook, run in step: their items have the same shape, and hooks that look at no kind
stay in related states (`unname_treeItems`). So nodes are made for the same entities
(`creators_congr`), and the kind of each can be read off its creator (`kinds_plainBuild`). Two
results for one cursor therefore differ at most in the kinds of null-safe accesses.
-/
namespace SyntaxCursor.Conversion

open Abstract Concrete

section Rules

variable {is js : List Item} (h : Item.unnameList is = Item.unnameList js)

include h

theorem joinTexts?_congr : joinTexts? is = joinTexts? js := by
  rw [← joinTexts?_mapInfoList NodeInfo.unname is, ← joinTexts?_mapInfoList NodeInfo.unname js]
  exact congrArg joinTexts? h

theorem singleNode?_congr :
    (singleNode? is).map Node.unname = (singleNode? js).map Node.unname := by
  have hsingle := congrArg singleNode? h
  rw [Item.unnameList, Item.unnameList, singleNode?_mapInfoList, singleNode?_mapInfoList]
    at hsingle
  exact hsingle

theorem unname_makeNode (kind kind' : String) (info : ParseInfo) :
    (makeNode kind info is).unname = (makeNode kind' info js).unname := by
  have hchildren : Item.mapInfoList NodeInfo.unname is = Item.mapInfoList NodeInfo.unname js := h
  rw [Node.unname, Node.unname, Node.mapInfo, Node.mapInfo, makeNode, makeNode, hchildren]
  rfl

theorem unname_nodeItems (v w : Int) (info : ParseInfo) :
    Item.unnameList (nodeItems v info is) = Item.unnameList (nodeItems w info js) := by
  have hnode (kind kind' : String) : Item.unnameList [(makeNode kind info is).toItem] =
      Item.unnameList [(makeNode kind' info js).toItem] := by
    rw [Item.unnameList_toItem, Item.unnameList_toItem, unname_makeNode h kind kind' info]
  simp only [nodeItems, joinTexts?_congr h]
  by_cases herror : info.isError = true
  · rw [if_pos herror, if_pos herror]
    exact hnode _ _
  rw [if_neg herror, if_neg herror]
  by_cases htransparent : isTransparent info.kind = true
  · rw [if_pos htransparent, if_pos htransparent]
    exact h
  rw [if_neg htransparent, if_neg htransparent]
  by_cases hstring : isString info.kind = true
  · rw [if_pos hstring, if_pos hstring]
    cases joinTexts? js with
    | none => exact hnode _ _
    | some s => rfl
  · rw [if_neg hstring, if_neg hstring]
    exact hnode _ _

theorem unname_rootNode (info : ParseInfo) :
    (rootNode info is).unname = (rootNode info js).unname := by
  have hsingle := singleNode?_congr h
  rw [rootNode, rootNode]
  cases hi : singleNode? is with
  | none =>
    rw [hi, Option.map_none, eq_comm, Option.map_eq_none_iff] at hsingle
    rw [hsingle]
    exact unname_makeNode h _ _ info
  | some m =>
    rw [hi, Option.map_some, eq_comm, Option.map_eq_some_iff] at hsingle
    obtain ⟨n, hj, hn⟩ := hsingle
    rw [hj]
    exact hn.symm

end Rules

theorem unname_tokenItems (v w : Int) (info : ParseInfo) (text : List UInt8) :
    Item.unnameList (tokenItems v info text) = Item.unnameList (tokenItems w info text) := by
  rw [tokenItems, tokenItems]
  by_cases hdropped : (!info.isNamed || isDropped info.kind) = true
  · rw [if_pos hdropped, if_pos hdropped]
  rw [if_neg hdropped, if_neg hdropped]
  cases scalarOf? info.kind with
  | none => rfl
  | some scalar => rfl

/-- A hook looks at no kind: for items of the same shape and states that `R` relates it gives
items of the same shape and states that `R` relates. -/
def KindBlind {σ : Type} (hook : Finish σ) (R : σ → σ → Prop) : Prop :=
  ∀ e is js s t, Item.unnameList is = Item.unnameList js → R s t →
    Item.unnameList (hook e is s).1 = Item.unnameList (hook e js t).1 ∧
      R (hook e is s).2 (hook e js t).2

theorem kindBlind_keep : KindBlind keep fun _ _ => True :=
  fun _ _ _ _ _ h _ => ⟨h, trivial⟩

/-- Two overlays hold the same selection; their marks may carry different kinds. -/
def SameSelection (o p : Overlay) : Prop := o.selection = p.selection

theorem kindBlind_mark : KindBlind mark SameSelection := by
  intro e is js o p h hs
  have hsingle := singleNode?_congr h
  simp only [mark, show o.selection = p.selection from hs]
  split
  · exact ⟨h, hs⟩
  cases hi : singleNode? is with
  | none =>
    rw [hi, Option.map_none, eq_comm, Option.map_eq_none_iff] at hsingle
    rw [hsingle]
    exact ⟨h, hs⟩
  | some m =>
    rw [hi, Option.map_some, eq_comm, Option.map_eq_some_iff] at hsingle
    obtain ⟨n, hj, hn⟩ := hsingle
    rw [hj]
    refine ⟨?_, rfl⟩
    show Item.unnameList [m.select.toItem] = Item.unnameList [n.select.toItem]
    rw [Item.unnameList_toItem, Item.unnameList_toItem, Node.unname_select, Node.unname_select,
      hn]

section Runs

variable {σ : Type} {hook : Finish σ} {R : σ → σ → Prop} (source : List UInt8) (v w : Int)

mutual

/-- Conversions for two versions run in step. -/
theorem unname_treeItems (hblind : KindBlind hook R) (parent : Option Nat) (k : Nat)
    (t : ParseTree) {s s' : σ} (hs : R s s') :
    Item.unnameList (treeItems source v hook parent k t s).1 =
        Item.unnameList (treeItems source w hook parent k t s').1 ∧
      R (treeItems source v hook parent k t s).2 (treeItems source w hook parent k t s').2 := by
  match t with
  | .node info children =>
    cases hm : info.isMissing with
    | true =>
      rw [treeItems_of_isMissing hm, treeItems_of_isMissing hm]
      exact hblind _ _ _ _ _ rfl hs
    | false =>
      cases ht : parent.isSome && children.isEmpty && !info.isError with
      | true =>
        rw [treeItems_of_isToken hm ht, treeItems_of_isToken hm ht]
        exact hblind _ _ _ _ _ (unname_tokenItems v w info _) hs
      | false =>
        obtain ⟨hbelow, hstate⟩ := unname_forestItems hblind k (k + 1) children hs
        rw [treeItems_of_isNode hm ht, treeItems_of_isNode hm ht]
        exact hblind _ _ _ _ _ (unname_nodeItems hbelow v w info) hstate

theorem unname_forestItems (hblind : KindBlind hook R) (parent next : Nat)
    (ts : List ParseTree) {s s' : σ} (hs : R s s') :
    Item.unnameList (forestItems source v hook parent next ts s).1 =
        Item.unnameList (forestItems source w hook parent next ts s').1 ∧
      R (forestItems source v hook parent next ts s).2
        (forestItems source w hook parent next ts s').2 := by
  match ts with
  | [] =>
    rw [forestItems_nil, forestItems_nil]
    exact ⟨rfl, hs⟩
  | t :: ts =>
    obtain ⟨hfirst, hstate⟩ := unname_treeItems hblind (some parent) next t hs
    obtain ⟨hrest, hend⟩ := unname_forestItems hblind parent (next + t.size) ts hstate
    rw [forestItems_cons, forestItems_cons]
    refine ⟨?_, hend⟩
    rw [Item.unnameList_append, Item.unnameList_append, hfirst, hrest]

end

theorem unname_plainItems (parent : Option Nat) (k : Nat) (t : ParseTree) :
    Item.unnameList (plainItems source v parent k t) =
      Item.unnameList (plainItems source w parent k t) :=
  (unname_treeItems source v w kindBlind_keep parent k t trivial).1

theorem unname_plainForest (parent next : Nat) (ts : List ParseTree) :
    Item.unnameList (plainForest source v parent next ts) =
      Item.unnameList (plainForest source w parent next ts) :=
  (unname_forestItems source v w kindBlind_keep parent next ts trivial).1

end Runs

section Origins

variable (source : List UInt8) (v w : Int)

theorem makesNode_congr (e : Entity) {is js : List Item}
    (h : Item.unnameList is = Item.unnameList js) : makesNode e is = makesNode e js := by
  rw [makesNode, makesNode, joinTexts?_congr h]

mutual

theorem map_entity_treeOrigins_congr (owner parent : Option Nat) (k : Nat) (t : ParseTree) :
    (treeOrigins source v owner parent k t).map (·.entity) =
      (treeOrigins source w owner parent k t).map (·.entity) := by
  match t with
  | .node info children =>
    have hmakes := makesNode_congr (Entity.ofTree source parent k (.node info children))
      (unname_plainForest source v w k (k + 1) children)
    cases hm : info.isMissing with
    | true => rw [treeOrigins_of_isMissing hm, treeOrigins_of_isMissing hm]
    | false =>
      cases h : makesNode (Entity.ofTree source parent k (.node info children))
        (plainForest source w k (k + 1) children) with
      | true =>
        rw [h] at hmakes
        rw [treeOrigins_of_makesNode hmakes, treeOrigins_of_makesNode h, List.map_cons,
          List.map_cons, map_entity_forestOrigins_congr]
      | false =>
        rw [h] at hmakes
        rw [treeOrigins_of_not_makesNode hm hmakes, treeOrigins_of_not_makesNode hm h,
          map_entity_forestOrigins_congr]

theorem map_entity_forestOrigins_congr (owner : Option Nat) (parent next : Nat)
    (ts : List ParseTree) :
    (forestOrigins source v owner parent next ts).map (·.entity) =
      (forestOrigins source w owner parent next ts).map (·.entity) := by
  match ts with
  | [] => rw [forestOrigins_nil, forestOrigins_nil]
  | t :: ts =>
    rw [forestOrigins_cons, forestOrigins_cons, List.map_append, List.map_append,
      map_entity_treeOrigins_congr, map_entity_forestOrigins_congr]

end

/-- Nodes are made for the same entities whatever the version is. -/
theorem creators_congr (d : Document) (v w : Int) :
    creators (Arena.ofDocument d) v = creators (Arena.ofDocument d) w := by
  have hsingle := singleNode?_congr (unname_plainItems d.source v w none 0 d.tree)
  rw [← map_entity_rootOrigins, ← map_entity_rootOrigins]
  cases hw : singleNode? (plainItems d.source w none 0 d.tree) with
  | none =>
    rw [hw, Option.map_none, Option.map_eq_none_iff] at hsingle
    rw [rootOrigins_of_wrapped hsingle, rootOrigins_of_wrapped hw, List.map_cons, List.map_cons,
      map_entity_forestOrigins_congr]
  | some n =>
    rw [hw, Option.map_some, Option.map_eq_some_iff] at hsingle
    obtain ⟨m, hv, _⟩ := hsingle
    rw [rootOrigins_of_single hv, rootOrigins_of_single hw, map_entity_treeOrigins_congr]

end Origins

/-- The kind of the node that is made for an entity. -/
def creatorKind (a : Arena) (version : Int) (e : Entity) : String :=
  if e.index == 0 && wrapsRoot a version then statementList
  else if e.isError then "ERROR"
  else kindName version e.kind

section Kinds

variable {source : List UInt8} {version : Int}

mutual

theorem kind_of_mem_treeOrigins {owner parent : Option Nat} {k : Nat} {t : ParseTree}
    {o : Origin} (ho : o ∈ treeOrigins source version owner parent k t) :
    o.node.info.kind = if o.entity.isError then "ERROR" else kindName version o.entity.kind := by
  match t with
  | .node info children =>
    cases hm : info.isMissing with
    | true => simp [treeOrigins_of_isMissing hm] at ho
    | false =>
      cases h : makesNode (Entity.ofTree source parent k (.node info children))
        (plainForest source version k (k + 1) children) with
      | true =>
        rw [treeOrigins_of_makesNode h] at ho
        rcases List.mem_cons.1 ho with rfl | ho
        · rfl
        · exact kind_of_mem_forestOrigins ho
      | false =>
        rw [treeOrigins_of_not_makesNode hm h] at ho
        exact kind_of_mem_forestOrigins ho

theorem kind_of_mem_forestOrigins {owner : Option Nat} {parent next : Nat}
    {ts : List ParseTree} {o : Origin}
    (ho : o ∈ forestOrigins source version owner parent next ts) :
    o.node.info.kind = if o.entity.isError then "ERROR" else kindName version o.entity.kind := by
  match ts with
  | [] => simp at ho
  | t :: ts =>
    rw [forestOrigins_cons] at ho
    rcases List.mem_append.1 ho with ho | ho
    · exact kind_of_mem_treeOrigins ho
    · exact kind_of_mem_forestOrigins ho

end

theorem kind_of_mem_rootOrigins {d : Document} {o : Origin}
    (ho : o ∈ rootOrigins d.source version d.tree) :
    o.node.info.kind = creatorKind (Arena.ofDocument d) version o.entity := by
  have hwraps := wrapsRoot_ofDocument d version
  cases h : singleNode? (plainItems d.source version none 0 d.tree) with
  | some n =>
    rw [h] at hwraps
    rw [rootOrigins_of_single h] at ho
    rw [creatorKind, hwraps, Option.isNone_some, Bool.and_false, if_neg Bool.false_ne_true]
    exact kind_of_mem_treeOrigins ho
  | none =>
    rw [h] at hwraps
    rw [rootOrigins_of_wrapped h] at ho
    rw [creatorKind, hwraps, Option.isNone_none, Bool.and_true]
    rcases List.mem_cons.1 ho with rfl | ho
    · rfl
    · have hbelow := (index_of_mem_forestOrigins ho).1
      rw [if_neg (by simp; omega)]
      exact kind_of_mem_forestOrigins ho

/-- Each node has the kind that its creator is given. -/
theorem kinds_plainBuild (d : Document) (version : Int) :
    (plainBuild d version).tree.kinds =
      (creators (Arena.ofDocument d) version).map
        (creatorKind (Arena.ofDocument d) version) := by
  rw [Node.kinds, plainBuild, ← map_node_rootOrigins, ← map_entity_rootOrigins, List.map_map,
    List.map_map]
  exact List.map_congr_left fun o ho => kind_of_mem_rootOrigins ho

end Kinds

theorem wrapsRoot_congr (d : Document) (v w : Int) :
    wrapsRoot (Arena.ofDocument d) v = wrapsRoot (Arena.ofDocument d) w := by
  have hsingle := singleNode?_congr (unname_plainItems d.source v w none 0 d.tree)
  rw [wrapsRoot_ofDocument, wrapsRoot_ofDocument, ← Option.isNone_map, hsingle,
    Option.isNone_map]

/-- A root that becomes a node needs no list of statements around it. -/
theorem wrapsRoot_eq_false {d : Document} {version : Int}
    (hmissing : d.tree.info.isMissing = false)
    (htransparent : isTransparent d.tree.info.kind = false)
    (hstring : isString d.tree.info.kind = false) :
    wrapsRoot (Arena.ofDocument d) version = false := by
  obtain ⟨n, hn⟩ := exists_singleNode?_root hmissing htransparent hstring version
  rw [wrapsRoot_ofDocument, hn, Option.isNone_some]

/-- The parsed kind of a null-safe access, and its abstract kinds for the older and for the newer
versions. -/
inductive NullsafeKinds : String → String → String → Prop where
  | access :
    NullsafeKinds "nullsafe_member_access_expression" "AST_PROP" "AST_NULLSAFE_PROP"
  | call :
    NullsafeKinds "nullsafe_member_call_expression" "AST_METHOD_CALL" "AST_NULLSAFE_METHOD_CALL"

theorem NullsafeKinds.kindName_eq {kind before since : String}
    (h : NullsafeKinds kind before since) (version : Int) :
    kindName version kind = if version < 80 then before else since := by
  have hsince : kindName version kind = if 80 ≤ version then since else before := by
    cases h <;> rfl
  rw [hsince]
  by_cases hversion : version < 80
  · rw [if_pos hversion, if_neg (by omega)]
  · rw [if_neg hversion, if_pos (by omega)]

theorem NullsafeKinds.isError_eq {info : ParseInfo} {before since : String}
    (h : NullsafeKinds info.kind before since) : info.isError = false := by
  generalize hkind : info.kind = kind at h
  rw [ParseInfo.isError, hkind]
  cases h <;> rfl

theorem NullsafeKinds.isTransparent_eq {kind before since : String}
    (h : NullsafeKinds kind before since) : isTransparent kind = false := by
  cases h <;> rfl

theorem NullsafeKinds.isString_eq {kind before since : String}
    (h : NullsafeKinds kind before since) : isString kind = false := by
  cases h <;> rfl

/-- Other kinds do not depend on the version. -/
theorem kindName_congr_of_not_nullsafe {kind : String}
    (h : ∀ before since, ¬ NullsafeKinds kind before since) (v w : Int) :
    kindName v kind = kindName w kind := by
  have haccess : kind ≠ "nullsafe_member_access_expression" := by
    rintro rfl
    exact h _ _ .access
  have hcall : kind ≠ "nullsafe_member_call_expression" := by
    rintro rfl
    exact h _ _ .call
  have hlookup : nullsafeKindNames.lookup kind = none := by
    simp [nullsafeKindNames, List.lookup_cons, beq_false_of_ne haccess, beq_false_of_ne hcall]
  simp only [kindName, hlookup]

/-- Versions on one side of the first one with null-safe kinds give the same kinds. -/
theorem kindName_congr_of_side {v w : Int} (h : v < 80 ↔ w < 80) (kind : String) :
    kindName v kind = kindName w kind := by
  by_cases hnullsafe : ∃ before since, NullsafeKinds kind before since
  · obtain ⟨before, since, hkinds⟩ := hnullsafe
    rw [hkinds.kindName_eq, hkinds.kindName_eq]
    simp only [h]
  · push Not at hnullsafe
    exact kindName_congr_of_not_nullsafe hnullsafe v w

section OfDocument

variable {d : Document}

theorem creatorKind_congr (e : Entity) {v w : Int} (h : kindName v e.kind = kindName w e.kind) :
    creatorKind (Arena.ofDocument d) v e = creatorKind (Arena.ofDocument d) w e := by
  rw [creatorKind, creatorKind, wrapsRoot_congr d v w, h]

/-- The creator of a null-safe access gives its node the kind for the version, unless it is a
missing root with a list of statements around it. -/
theorem NullsafeKinds.creatorKind_eq {e : Entity} {before since : String}
    (h : NullsafeKinds e.kind before since) {version : Int}
    (he : e ∈ creators (Arena.ofDocument d) version) (hm : e.isMissing = false) :
    creatorKind (Arena.ofDocument d) version e = if version < 80 then before else since := by
  have hnowrap : (e.index == 0 && wrapsRoot (Arena.ofDocument d) version) = false := by
    by_cases hindex : e.index = 0
    · have hentity := Arena.entity?_of_mem d (List.mem_filter.1 he).1
      rw [hindex, (Arena.holds_ofDocument d).entity?_eq, Option.some_inj] at hentity
      subst hentity
      rw [wrapsRoot_eq_false hm h.isTransparent_eq h.isString_eq, Bool.and_false]
    · rw [beq_false_of_ne hindex, Bool.false_and]
  rw [creatorKind, hnowrap, h.isError_eq, h.kindName_eq]
  rfl

/-- What a creator gives its node differs only between an older and a newer version, at a
null-safe access. -/
theorem creatorKind_eq_or (d : Document) (v w : Int) (e : Entity) :
    creatorKind (Arena.ofDocument d) v e = creatorKind (Arena.ofDocument d) w e ∨
      (v < 80 ∧ 80 ≤ w ∧ NullsafeKinds e.kind (creatorKind (Arena.ofDocument d) v e)
        (creatorKind (Arena.ofDocument d) w e)) ∨
      (w < 80 ∧ 80 ≤ v ∧ NullsafeKinds e.kind (creatorKind (Arena.ofDocument d) w e)
        (creatorKind (Arena.ofDocument d) v e)) := by
  by_cases hnullsafe : ∃ before since, NullsafeKinds e.kind before since
  · obtain ⟨before, since, hkinds⟩ := hnullsafe
    cases hwrap : e.index == 0 && wrapsRoot (Arena.ofDocument d) w with
    | true =>
      left
      rw [creatorKind, creatorKind, wrapsRoot_congr d v w, hwrap]
      rfl
    | false =>
      have hkind (version : Int) : creatorKind (Arena.ofDocument d) version e =
          if version < 80 then before else since := by
        rw [creatorKind, wrapsRoot_congr d version w, hwrap, hkinds.isError_eq,
          hkinds.kindName_eq]
        rfl
      rw [hkind v, hkind w]
      by_cases hv : v < 80 <;> by_cases hw : w < 80
      · left
        rw [if_pos hv, if_pos hw]
      · right; left
        rw [if_pos hv, if_neg hw]
        exact ⟨hv, by omega, hkinds⟩
      · right; right
        rw [if_pos hw, if_neg hv]
        exact ⟨hw, by omega, hkinds⟩
      · left
        rw [if_neg hv, if_neg hw]
  · left
    push Not at hnullsafe
    exact creatorKind_congr e (kindName_congr_of_not_nullsafe hnullsafe v w)

end OfDocument

section Requests

variable {π : Type} [SelectionPolicy π] (policy : π) (v w offset : Int) (d : Document)

theorem unname_resultAt :
    (resultAt policy v offset d).tree.unname = (resultAt policy w offset d).tree.unname := by
  rw [tree_resultAt, tree_resultAt]
  exact unname_rootNode
    (unname_treeItems d.source v w kindBlind_mark none 0 d.tree rfl).1 d.tree.info

theorem selected_resultAt_congr :
    (resultAt policy v offset d).selected = (resultAt policy w offset d).selected := by
  have hunname := unname_resultAt policy v w offset d
  rw [tree_resultAt, tree_resultAt] at hunname
  rw [selected_resultAt, selected_resultAt, ← Node.firstSelected?_unname, hunname,
    Node.firstSelected?_unname]

theorem kinds_resultAt :
    (resultAt policy v offset d).tree.kinds =
      (creators (Arena.ofDocument d) v).map (creatorKind (Arena.ofDocument d) v) := by
  rw [← kinds_plainBuild, ← unmark_resultAt policy v offset d, Node.kinds_unmark]

/-- The kind of the node at a place is the one that its creator is given. -/
theorem kind_resultAt {place : Nat} {e : Entity} {n : Node}
    (he : (creators (Arena.ofDocument d) v)[place]? = some e)
    (hn : (resultAt policy v offset d).tree.nodes[place]? = some n) :
    n.info.kind = creatorKind (Arena.ofDocument d) v e := by
  have hkind := congrArg (·[place]?) (kinds_resultAt policy v offset d)
  simpa [Node.kinds, he, hn] using hkind

end Requests

/-- Two results for one cursor that differ at most in the kinds of null-safe accesses. A node and
its creator stand at the same place, the one in document order and the other in the order of
numbers. -/
structure RenamesNullsafe (a : Arena) (v w : Int) (r s : Result) : Prop where
  entity_eq : r.entity = s.entity
  diagnostics_eq : r.diagnostics = s.diagnostics
  /-- The selected nodes stand at the same place. -/
  selected_eq : r.selected = s.selected
  /-- The trees have the same shape, scalars, lines, spans and flags. -/
  unname_eq : r.tree.unname = s.tree.unname
  /-- Flags apart, the trees are those that are built without a cursor, of one node for each
  creator. -/
  unmark_eq : (build? a v keep ()).map (·.tree) = some r.tree.unmark ∧
    (build? a w keep ()).map (·.tree) = some s.tree.unmark
  creators_eq : creators a v = creators a w
  length_eq : r.tree.nodes.length = (creators a v).length
  /-- A kind differs only between an older and a newer version, at a null-safe access. -/
  kind_eq_or : ∀ (place : Nat) (e : Entity) (m n : Node), (creators a v)[place]? = some e →
    r.tree.nodes[place]? = some m → s.tree.nodes[place]? = some n →
    m.info.kind = n.info.kind ∨
      (v < 80 ∧ 80 ≤ w ∧ NullsafeKinds e.kind m.info.kind n.info.kind) ∨
      (w < 80 ∧ 80 ≤ v ∧ NullsafeKinds e.kind n.info.kind m.info.kind)
  /-- Each null-safe access that is there has the kind for its version. -/
  kind_eq : ∀ (place : Nat) (e : Entity) (m n : Node) (before since : String),
    (creators a v)[place]? = some e → e.isMissing = false →
    NullsafeKinds e.kind before since →
    r.tree.nodes[place]? = some m → s.tree.nodes[place]? = some n →
    m.info.kind = (if v < 80 then before else since) ∧
      n.info.kind = (if w < 80 then before else since)
  /-- Versions on the same side of the first one with null-safe kinds give equal trees. -/
  tree_eq : (v < 80 ↔ w < 80) → r.tree = s.tree

/-- The target version only renames null-safe accesses: whatever the document, the cursor and
the policy, the results for two supported versions differ in nothing else. -/
theorem convert_renames_nullsafe {π : Type} [SelectionPolicy π] (c : Converter π) (d : Document)
    (offset : Int) {v w : Int}
    (hv : v ∈ supportedVersions) (hw : w ∈ supportedVersions) :
    ∃ r s,
      (c.convert { document := d, version := .number v, offset }).answer = .ok r ∧
      (c.convert { document := d, version := .number w, offset }).answer = .ok s ∧
      RenamesNullsafe (Arena.ofDocument d) v w r s := by
  refine ⟨_, _, Converter.answer_convert c (supported?_number hv) rfl,
    Converter.answer_convert c (supported?_number hw) rfl, ?_⟩
  generalize clampOffset offset d.source.length = o
  have hcreators := creators_congr d v w
  constructor
  case entity_eq => rfl
  case diagnostics_eq => rfl
  case selected_eq => exact selected_resultAt_congr c.policy v w o d
  case unname_eq => exact unname_resultAt c.policy v w o d
  case unmark_eq =>
    rw [build?_keep, build?_keep, unmark_resultAt, unmark_resultAt]
    exact ⟨rfl, rfl⟩
  case creators_eq => exact hcreators
  case length_eq =>
    have hlength := congrArg List.length (kinds_resultAt c.policy v o d)
    simpa [Node.kinds] using hlength
  case kind_eq_or =>
    intro place e m n he hm hn
    rw [kind_resultAt c.policy v o d he hm, kind_resultAt c.policy w o d (hcreators ▸ he) hn]
    exact creatorKind_eq_or d v w e
  case kind_eq =>
    intro place e m n before since he hmissing hkinds hm hn
    have hmem := List.mem_of_getElem? he
    rw [kind_resultAt c.policy v o d he hm, kind_resultAt c.policy w o d (hcreators ▸ he) hn]
    exact ⟨hkinds.creatorKind_eq hmem hmissing, hkinds.creatorKind_eq (hcreators ▸ hmem) hmissing⟩
  case tree_eq =>
    intro hside
    refine Node.eq_of_unname_eq (unname_resultAt c.policy v w o d) ?_
    rw [kinds_resultAt, kinds_resultAt, hcreators]
    exact List.map_congr_left fun e _ => creatorKind_congr e (kindName_congr_of_side hside e.kind)

/-- The parse of the statement `$a?->b;`. -/
def nullsafeStatement : Document :=
  let token (kind : String) (start stop : Nat) (isNamed : Bool) : ParseTree :=
    .node ⟨kind, start, stop, 0, start, isNamed, false⟩ []
  let inner (kind : String) (start stop : Nat) (children : List ParseTree) : ParseTree :=
    .node ⟨kind, start, stop, 0, start, true, false⟩ children
  let name := inner "variable_name" 0 2 [token "$" 0 1 false, token "name" 1 2 true]
  let access := inner "nullsafe_member_access_expression" 0 6
    [name, token "?->" 2 5 false, token "name" 5 6 true]
  { source := [36, 97, 63, 45, 62, 98, 59]
    tree := inner "program" 0 7
      [inner "expression_statement" 0 7 [access, token ";" 6 7 false]]
    hasError := false }

/-- The access, made for entity 2 and second in document order, is renamed between two versions
and stays selected. -/
theorem convert_renames_nullsafeStatement :
    (70 : Int) ∈ supportedVersions ∧ (80 : Int) ∈ supportedVersions ∧
      ∃ r s,
        (convert .standard
          { document := nullsafeStatement, version := .number 70, offset := 5 }).answer = .ok r ∧
        (convert .standard
          { document := nullsafeStatement, version := .number 80, offset := 5 }).answer = .ok s ∧
        RenamesNullsafe (Arena.ofDocument nullsafeStatement) 70 80 r s ∧
        r.tree.kinds = ["AST_STMT_LIST", "AST_PROP", "AST_VAR"] ∧
        s.tree.kinds = ["AST_STMT_LIST", "AST_NULLSAFE_PROP", "AST_VAR"] ∧
        r.selected = some 1 := by
  have hv : (70 : Int) ∈ supportedVersions := by decide
  have hw : (80 : Int) ∈ supportedVersions := by decide
  obtain ⟨r, s, hr, hs, hrenames⟩ :=
    convert_renames_nullsafe { policy := .standard } nullsafeStatement 5 hv hw
  refine ⟨hv, hw, r, s, hr, hs, hrenames, ?_⟩
  rw [Converter.answer_convert _ rfl rfl, Except.ok.injEq] at hr hs
  subst hr hs
  refine ⟨?_, ?_, ?_⟩ <;> decide +kernel

end SyntaxCursor.Conversion
