import SyntaxCursor.Proofs.Requests
import SyntaxCursor.Proofs.Shape

/-!
# Marking adds nothing but flags

The rules that make items from items look at the texts among them and at whether there is a
single node, and at no flag; so they commute with `unmark`. A hook that changes only flags
therefore gives the plain items once the flags are taken away (`unmark_treeItems`). Whatever a
request marks, its tree is the plain tree up to flags, and its reports are those of the plain
conversion.
-/
namespace SyntaxCursor.Conversion

open Abstract Concrete

section Rule

variable (version : Int) (info : ParseInfo) (is : List Item)

theorem singleNode?_eq_some_iff {is : List Item} {n : Node} :
    singleNode? is = some n ↔ is = [n.toItem] := by
  match is with
  | [] => simp [singleNode?]
  | [.scalar value] => simp [singleNode?, Item.node?, Node.toItem]
  | [.node info children] =>
    constructor
    · intro h
      obtain rfl : ⟨info, children⟩ = n := by simpa [singleNode?, Item.node?] using h
      rfl
    · intro h
      obtain ⟨rfl, rfl⟩ : info = n.info ∧ children = n.children := by
        simpa [Node.toItem] using h
      rfl
  | _ :: _ :: _ => simp [singleNode?]

theorem singleNode?_unmarkList :
    singleNode? (Item.unmarkList is) = (singleNode? is).map Node.unmark := by
  rw [Item.unmarkList_eq_mapInfoList, singleNode?_mapInfoList]
  exact congrArg (Option.map · (singleNode? is)) (funext Node.unmark_eq_mapInfo).symm

theorem joinTexts?_unmarkList : joinTexts? (Item.unmarkList is) = joinTexts? is := by
  rw [Item.unmarkList_eq_mapInfoList, joinTexts?_mapInfoList]

/-- Texts hold no nodes. -/
theorem selectedIn_of_joinTexts? {is : List Item} {s : String} (h : joinTexts? is = some s) :
    Item.selectedIn is = [] := by
  induction is generalizing s with
  | nil => simp
  | cons i is ih =>
    cases i with
    | scalar value =>
      cases value with
      | text s' =>
        rw [joinTexts?, Option.map_eq_some_iff] at h
        obtain ⟨rest, hrest, _⟩ := h
        rw [Item.selectedIn_scalar, ih hrest]
      | null => simp [joinTexts?] at h
      | int n => simp [joinTexts?] at h
      | float x => simp [joinTexts?] at h
    | node info children => simp [joinTexts?] at h

theorem unmark_makeNode (kind : String) :
    (makeNode kind info is).unmark = makeNode kind info (Item.unmarkList is) := rfl

theorem selectedIn_makeNode (kind : String) :
    Item.selectedIn [(makeNode kind info is).toItem] = Item.selectedIn is := by
  rw [Node.toItem, Item.selectedIn_node]
  simp [makeNode]

theorem nodeItems_unmarkList :
    nodeItems version info (Item.unmarkList is) =
      Item.unmarkList (nodeItems version info is) := by
  have hnode (kind : String) : Item.unmarkList [(makeNode kind info is).toItem] =
      [(makeNode kind info (Item.unmarkList is)).toItem] := by
    rw [Item.unmarkList_cons, Item.unmarkList_nil, ← Node.toItem_unmark, unmark_makeNode]
  simp only [nodeItems, joinTexts?_unmarkList]
  by_cases herror : info.isError = true
  · rw [if_pos herror, if_pos herror, hnode]
  rw [if_neg herror, if_neg herror]
  by_cases htransparent : isTransparent info.kind = true
  · rw [if_pos htransparent, if_pos htransparent]
  rw [if_neg htransparent, if_neg htransparent]
  by_cases hstring : isString info.kind = true
  · rw [if_pos hstring, if_pos hstring]
    cases joinTexts? is with
    | none => exact (hnode _).symm
    | some s => simp
  · rw [if_neg hstring, if_neg hstring, hnode]

theorem selectedIn_nodeItems :
    Item.selectedIn (nodeItems version info is) = Item.selectedIn is := by
  simp only [nodeItems]
  by_cases herror : info.isError = true
  · rw [if_pos herror, selectedIn_makeNode]
  rw [if_neg herror]
  by_cases htransparent : isTransparent info.kind = true
  · rw [if_pos htransparent]
  rw [if_neg htransparent]
  by_cases hstring : isString info.kind = true
  · rw [if_pos hstring]
    cases hjoin : joinTexts? is with
    | none => exact selectedIn_makeNode info is _
    | some s => rw [selectedIn_of_joinTexts? hjoin, Item.selectedIn_scalar, Item.selectedIn_nil]
  · rw [if_neg hstring, selectedIn_makeNode]

theorem unmarkList_tokenItems (text : List UInt8) :
    Item.unmarkList (tokenItems version info text) = tokenItems version info text := by
  rw [tokenItems]
  by_cases hdropped : (!info.isNamed || isDropped info.kind) = true
  · rw [if_pos hdropped, Item.unmarkList_nil]
  rw [if_neg hdropped]
  cases scalarOf? info.kind with
  | none => simp [Node.toItem, makeNode]
  | some scalar => simp

theorem rootNode_unmarkList :
    rootNode info (Item.unmarkList is) = (rootNode info is).unmark := by
  rw [rootNode, rootNode, singleNode?_unmarkList]
  cases singleNode? is with
  | none => exact (unmark_makeNode info is _).symm
  | some n => rfl

theorem selectedNodes_rootNode :
    (rootNode info is).selectedNodes = Item.selectedIn is := by
  rw [Node.selectedNodes_eq, rootNode]
  cases hsingle : singleNode? is with
  | none => exact selectedIn_makeNode info is _
  | some n => rw [singleNode?_eq_some_iff.1 hsingle, Option.getD_some]

end Rule

/-- A hook that changes nothing about items but flags. -/
def FlagsOnly {σ : Type} (hook : Finish σ) : Prop :=
  ∀ e is s, Item.unmarkList (hook e is s).1 = Item.unmarkList is

theorem flagsOnly_keep : FlagsOnly keep := fun _ _ _ => rfl

theorem unmarkList_select (n : Node) :
    Item.unmarkList [n.select.toItem] = Item.unmarkList [n.toItem] := by
  simp [Node.toItem, Node.select]

theorem flagsOnly_mark : FlagsOnly mark := by
  intro e is o
  simp only [mark]
  split
  · rfl
  · cases hsingle : singleNode? is with
    | none => rfl
    | some n =>
      rw [singleNode?_eq_some_iff.1 hsingle]
      exact unmarkList_select n

section Unmark

variable {σ : Type} {hook : Finish σ} (source : List UInt8) (version : Int)

mutual

/-- Up to flags, a hook that changes nothing else gives the plain items. -/
theorem unmark_treeItems (hflags : FlagsOnly hook) (parent : Option Nat) (k : Nat)
    (t : ParseTree) (s : σ) :
    Item.unmarkList (treeItems source version hook parent k t s).1 =
      plainItems source version parent k t := by
  match t with
  | .node info children =>
    cases hm : info.isMissing with
    | true =>
      rw [treeItems_of_isMissing hm, plainItems_of_isMissing hm, hflags, Item.unmarkList_nil]
    | false =>
      cases ht : parent.isSome && children.isEmpty && !info.isError with
      | true =>
        rw [treeItems_of_isToken hm ht, plainItems_of_isToken hm ht, hflags,
          unmarkList_tokenItems]
      | false =>
        rw [treeItems_of_isNode hm ht, plainItems_of_isNode hm ht, hflags,
          ← nodeItems_unmarkList, unmark_forestItems hflags]

theorem unmark_forestItems (hflags : FlagsOnly hook) (parent next : Nat)
    (ts : List ParseTree) (s : σ) :
    Item.unmarkList (forestItems source version hook parent next ts s).1 =
      plainForest source version parent next ts := by
  match ts with
  | [] => rw [forestItems_nil, plainForest_nil, Item.unmarkList_nil]
  | t :: ts =>
    rw [forestItems_cons, plainForest_cons, Item.unmarkList_append,
      unmark_treeItems hflags, unmark_forestItems hflags]

end

end Unmark

section Plain

variable (source : List UInt8) (version : Int)

@[simp] theorem selectedIn_plainItems (parent : Option Nat) (k : Nat) (t : ParseTree) :
    Item.selectedIn (plainItems source version parent k t) = [] := by
  rw [← unmark_treeItems source version flagsOnly_keep parent k t (), Item.selectedIn_unmarkList]

@[simp] theorem selectedIn_plainForest (parent next : Nat) (ts : List ParseTree) :
    Item.selectedIn (plainForest source version parent next ts) = [] := by
  rw [← unmark_forestItems source version flagsOnly_keep parent next ts (),
    Item.selectedIn_unmarkList]

theorem selectedNodes_plainBuild (d : Document) :
    (plainBuild d version).tree.selectedNodes = [] := by
  rw [plainBuild, selectedNodes_rootNode, selectedIn_plainItems]

end Plain

theorem unmark_enforceSingle (tree : Node) : (enforceSingle tree).1.unmark = tree.unmark := by
  rw [enforceSingle]
  by_cases hcount : 1 < tree.selectedCount
  · rw [if_pos hcount, Node.unmark_keepFirst]
  · rw [if_neg hcount]

theorem unmark_resultAt {π : Type} [SelectionPolicy π] (policy : π) (version offset : Int)
    (d : Document) :
    (resultAt policy version offset d).tree.unmark = (plainBuild d version).tree := by
  have hbuild : (buildAt policy version offset d).tree.unmark = (plainBuild d version).tree := by
    rw [buildAt, markedBuild, ← rootNode_unmarkList,
      unmark_treeItems d.source version flagsOnly_mark none 0 d.tree]
    rfl
  rw [resultAt, unmark_enforceSingle, hbuild]

theorem supported?_number {version : Int} (hv : version ∈ supportedVersions) :
    (VersionRequest.number version).supported? = some version := by
  rw [VersionRequest.supported?, if_pos (by simpa using hv)]

/-- Requests add only flags: whatever the policies of two converters, the tracers that listen and
the offsets of the cursors, the trees for one document and one supported version agree once the
flags are taken away, and so do the reports. They are the tree and the reports of the plain
conversion, in which nothing is selected. -/
theorem convert_adds_only_flags {π₁ π₂ τ₁ τ₂ : Type} [SelectionPolicy π₁] [SelectionPolicy π₂]
    [SelectionTracer τ₁] [SelectionTracer τ₂] (d : Document) (version : Int)
    (hv : version ∈ supportedVersions) (c₁ : Converter π₁) (c₂ : Converter π₂) (t₁ : τ₁) (t₂ : τ₂)
    (offset₁ offset₂ : Int) :
    ∃ r₁ r₂ plain,
      (c₁.convertTracing t₁
        { document := d, version := .number version, offset := offset₁ }).1.answer = .ok r₁ ∧
      (c₂.convertTracing t₂
        { document := d, version := .number version, offset := offset₂ }).1.answer = .ok r₂ ∧
      build? (Arena.ofDocument d) version keep () = some plain ∧
      r₁.tree.unmark = r₂.tree.unmark ∧ r₁.diagnostics = r₂.diagnostics ∧
      r₁.tree.unmark = plain.tree ∧ r₁.diagnostics = plain.diagnostics ∧
      plain.tree.selectedNodes = [] := by
  have hnumber := supported?_number hv
  rw [Converter.convertTracing_eq, Converter.convertTracing_eq]
  refine ⟨_, _, plainBuild d version, Converter.answer_convert c₁ hnumber rfl,
    Converter.answer_convert c₂ hnumber rfl, build?_keep d version, ?_, rfl, ?_, rfl,
    selectedNodes_plainBuild version d⟩
  · rw [unmark_resultAt, unmark_resultAt]
  · rw [unmark_resultAt]

/-- Two cursors in one statement: their policies differ, and a tracer listens at one of them. -/
theorem convert_propertyStatement_adds_only_flags :
    let c₁ : Converter := { policy := .standard }
    let c₂ : Converter (Entity → Bool) := { policy := fun _ => false }
    (80 : Int) ∈ supportedVersions ∧
      (c₁.convertTracing ([] : List Event)
        { document := propertyStatement, version := .number 80, offset := 4 }).2.length = 3 ∧
      ∃ r₁ r₂,
        (c₁.convertTracing ([] : List Event)
          { document := propertyStatement, version := .number 80, offset := 4 }).1.answer =
            .ok r₁ ∧
        (c₂.convertTracing ()
          { document := propertyStatement, version := .number 80, offset := 0 }).1.answer =
            .ok r₂ ∧
        r₁.tree.unmark = r₂.tree.unmark ∧ r₁.diagnostics = r₂.diagnostics := by
  intro c₁ c₂
  have hv : (80 : Int) ∈ supportedVersions := by decide
  obtain ⟨r₁, r₂, _, h₁, h₂, _, htree, hdiagnostics, _⟩ :=
    convert_adds_only_flags propertyStatement 80 hv c₁ c₂ ([] : List Event) () 4 0
  exact ⟨hv, by decide +kernel, r₁, r₂, h₁, h₂, htree, hdiagnostics⟩

end SyntaxCursor.Conversion
