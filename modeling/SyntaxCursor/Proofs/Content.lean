import SyntaxCursor.Proofs.Finished

/-!
# Scalars are neither lost nor moved

The content of a tree are its scalars in document order. Folding joins texts and adds empty ones,
so lists of scalars are compared by the text they make up and by the numbers they hold
(`SameContent`). No rule changes this, and so the content of the tree of a document is that of
its scalar tokens (`content_conserved`).
-/
namespace SyntaxCursor.Abstract

def Scalar.text? : Scalar → Option String
  | .text s => some s
  | _ => none

def Scalar.isNumber : Scalar → Bool
  | .int _ => true
  | .float _ => true
  | _ => false

/-- The texts among scalars, joined. -/
def joinedTexts (vs : List Scalar) : String := String.join (vs.filterMap Scalar.text?)

/-- The numbers among scalars. -/
def numbers (vs : List Scalar) : List Scalar := vs.filter Scalar.isNumber

/-- The same text in all, and the same numbers. -/
structure SameContent (vs ws : List Scalar) : Prop where
  texts : joinedTexts vs = joinedTexts ws
  numbers : numbers vs = numbers ws

namespace SameContent

theorem refl (vs : List Scalar) : SameContent vs vs := ⟨rfl, rfl⟩

theorem trans {us vs ws : List Scalar} (h : SameContent us vs) (h' : SameContent vs ws) :
    SameContent us ws :=
  ⟨h.texts.trans h'.texts, h.numbers.trans h'.numbers⟩

theorem append {vs vs' ws ws' : List Scalar} (h : SameContent vs ws) (h' : SameContent vs' ws') :
    SameContent (vs ++ vs') (ws ++ ws') where
  texts := by
    have htexts := h.texts
    have htexts' := h'.texts
    simp only [joinedTexts, List.filterMap_append, String.join_append] at *
    rw [htexts, htexts']
  numbers := by
    have hnumbers := h.numbers
    have hnumbers' := h'.numbers
    simp only [Abstract.numbers, List.filter_append] at *
    rw [hnumbers, hnumbers']

end SameContent

namespace Item

mutual

/-- The scalars of an item in document order. -/
def content : Item → List Scalar
  | .scalar value => [value]
  | .node _ children => contentList children

def contentList : List Item → List Scalar
  | [] => []
  | i :: is => content i ++ contentList is

end

@[simp] theorem content_scalar (value : Scalar) : content (.scalar value) = [value] := by
  rw [content]

@[simp] theorem content_node (info : NodeInfo) (children : List Item) :
    content (.node info children) = contentList children := by
  rw [content]

@[simp] theorem contentList_nil : contentList [] = [] := by rw [contentList]

@[simp] theorem contentList_cons (i : Item) (is : List Item) :
    contentList (i :: is) = content i ++ contentList is := by
  rw [contentList]

@[simp] theorem contentList_append (is js : List Item) :
    contentList (is ++ js) = contentList is ++ contentList js := by
  induction is with
  | nil => simp
  | cons i is ih => simp [ih]

end Item

/-- The scalars of a tree in document order. -/
def Node.content (n : Node) : List Scalar := Item.contentList n.children

@[simp] theorem Node.content_toItem (n : Node) : n.toItem.content = n.content := by
  rw [toItem, Item.content_node, content]

end SyntaxCursor.Abstract

namespace SyntaxCursor.Conversion

open Abstract Concrete

/-- The scalar that a token of a scalar kind stands for, if it is named. -/
def tokenValue? (info : ParseInfo) (text : List UInt8) : Option Scalar :=
  if info.isNamed then (scalarOf? info.kind).map fun scalar => scalar (Utf8.decode text)
  else none

section Rules

theorem scalarOf?_of_isDropped {kind : String} (h : isDropped kind = true) :
    scalarOf? kind = none := by
  have hkind : kind = "comment" ∨ kind = "php_tag" ∨ kind = "php_end_tag" := by
    simpa [isDropped] using h
  rcases hkind with rfl | rfl | rfl <;> rfl

theorem scalarOf?_of_isError {info : ParseInfo} (h : info.isError = true) :
    scalarOf? info.kind = none := by
  have hkind : info.kind = "ERROR" := by simpa [ParseInfo.isError] using h
  rw [hkind]
  rfl

/-- Items that are folded are the texts of which the joined one consists. -/
theorem sameContent_of_joinTexts? {is : List Item} {s : String} (h : joinTexts? is = some s) :
    SameContent [.text s] (Item.contentList is) := by
  induction is generalizing s with
  | nil =>
    obtain rfl : "" = s := Option.some.inj h
    exact ⟨rfl, rfl⟩
  | cons i is ih =>
    cases i with
    | scalar value =>
      cases value with
      | text s' =>
        rw [joinTexts?, Option.map_eq_some_iff] at h
        obtain ⟨rest, hrest, rfl⟩ := h
        have hsplit : SameContent [.text (s' ++ rest)] ([.text s'] ++ [.text rest]) :=
          ⟨by simp [joinedTexts, Scalar.text?], rfl⟩
        rw [Item.contentList_cons, Item.content_scalar]
        exact hsplit.trans ((SameContent.refl _).append (ih hrest))
      | null => simp [joinTexts?] at h
      | int n => simp [joinTexts?] at h
      | float x => simp [joinTexts?] at h
    | node info children => simp [joinTexts?] at h

theorem contentList_makeNode (kind : String) (info : ParseInfo) (is : List Item) :
    Item.contentList [(makeNode kind info is).toItem] = Item.contentList is := by
  simp [Node.content, makeNode]

variable (version : Int) (info : ParseInfo)

theorem sameContent_nodeItems (is : List Item) :
    SameContent (Item.contentList (nodeItems version info is)) (Item.contentList is) := by
  have hnode (kind : String) :
      SameContent (Item.contentList [(makeNode kind info is).toItem]) (Item.contentList is) := by
    rw [contentList_makeNode]
    exact SameContent.refl _
  simp only [nodeItems]
  by_cases herror : info.isError = true
  · rw [if_pos herror]
    exact hnode _
  rw [if_neg herror]
  by_cases htransparent : isTransparent info.kind = true
  · rw [if_pos htransparent]
    exact SameContent.refl _
  rw [if_neg htransparent]
  by_cases hstring : isString info.kind = true
  · rw [if_pos hstring]
    cases hjoin : joinTexts? is with
    | none => exact hnode _
    | some s => simpa using sameContent_of_joinTexts? hjoin
  · rw [if_neg hstring]
    exact hnode _

theorem contentList_tokenItems (text : List UInt8) :
    Item.contentList (tokenItems version info text) = (tokenValue? info text).toList := by
  rw [tokenItems, tokenValue?]
  cases hnamed : info.isNamed with
  | false => simp
  | true =>
    cases hdropped : isDropped info.kind with
    | true => simp [scalarOf?_of_isDropped hdropped]
    | false =>
      cases scalarOf? info.kind with
      | none => simp [Node.content, makeNode]
      | some scalar => simp

theorem content_rootNode (is : List Item) :
    (rootNode info is).content = Item.contentList is := by
  rw [rootNode]
  cases h : singleNode? is with
  | none => rfl
  | some n => simp [singleNode?_eq_some_iff.1 h]

end Rules

/-- The value of an entity that is a scalar token and neither missing nor below a missing
entity. -/
def tokenScalar? (a : Arena) (e : Entity) : Option Scalar :=
  if e.isToken && !e.isMissing && !isCut a e.index then tokenValue? e.toParseInfo e.text
  else none

/-- The values of the scalar tokens in document order. -/
def tokenScalars (a : Arena) : List Scalar := a.entities.toList.filterMap (tokenScalar? a)

theorem tokenScalar?_of_isMissing {a : Arena} {e : Entity} (h : e.isMissing = true) :
    tokenScalar? a e = none := by
  rw [tokenScalar?, if_neg (by simp [h])]

theorem tokenScalar?_of_isCut {a : Arena} {e : Entity} (h : isCut a e.index = true) :
    tokenScalar? a e = none := by
  rw [tokenScalar?, if_neg (by simp [h])]

theorem tokenScalar?_of_isNode {a : Arena} {e : Entity}
    (h : (e.isToken && !e.isError) = false) : tokenScalar? a e = none := by
  rw [tokenScalar?]
  cases htoken : e.isToken with
  | false => rfl
  | true =>
    have herror : e.isError = true := by simpa [htoken] using h
    rw [tokenValue?, scalarOf?_of_isError herror, Option.map_none, ite_self, ite_self]

theorem tokenScalar?_of_isToken {a : Arena} {e : Entity} (htoken : e.isToken = true)
    (hm : e.isMissing = false) (hcut : isCut a e.index = false) :
    tokenScalar? a e = tokenValue? e.toParseInfo e.text := by
  rw [tokenScalar?, htoken, hm, hcut]
  rfl

section Holds

variable {a : Arena} (version : Int)

mutual

/-- The items of a held tree have the content of its scalar tokens. -/
theorem sameContent_plainItems {parent : Option Nat} {k : Nat} {t : ParseTree}
    (h : a.Holds parent k t) (hcut : isCut a k = false) :
    SameContent (Item.contentList (plainItems a.source version parent k t))
      ((t.entities a.source parent k).filterMap (tokenScalar? a)) := by
  match t with
  | .node info children =>
    obtain ⟨he, hchildren⟩ := Arena.holds_node.1 h
    rw [ParseTree.entities_node, List.filterMap_cons]
    cases hm : info.isMissing with
    | true =>
      have hbelow : (ParseTree.entitiesList a.source k (k + 1) children).filterMap
          (tokenScalar? a) = [] := by
        rw [List.filterMap_eq_nil_iff]
        intro e hmem
        exact tokenScalar?_of_isCut (isCut_of_mem_entitiesList h hm hmem)
      rw [plainItems_of_isMissing hm, tokenScalar?_of_isMissing hm, hbelow,
        Item.contentList_nil]
      exact SameContent.refl _
    | false =>
      cases ht : parent.isSome && children.isEmpty && !info.isError with
      | true =>
        have hleaf := isLeaf_of_isToken ht
        have htoken : (Entity.ofTree a.source parent k (.node info children)).isToken = true :=
          (Bool.and_eq_true_iff.1 ht).1
        rw [plainItems_of_isToken hm ht, contentList_tokenItems,
          tokenScalar?_of_isToken htoken hm hcut, hleaf.1, ParseTree.entitiesList_nil,
          Entity.ofTree_info, ParseTree.info_node]
        cases tokenValue? info
          (Entity.ofTree a.source parent k (.node info [])).text with
        | none => exact SameContent.refl _
        | some value => exact SameContent.refl _
      | false =>
        rw [plainItems_of_isNode hm ht, tokenScalar?_of_isNode ht]
        exact (sameContent_nodeItems version info _).trans
          (sameContent_plainForest hchildren fun c hc => isCut_of_child he hm hcut hc)

theorem sameContent_plainForest {parent next : Nat} {ts : List ParseTree}
    (h : a.HoldsList parent next ts)
    (hcut : ∀ c, a.parent? c = some parent → isCut a c = false) :
    SameContent (Item.contentList (plainForest a.source version parent next ts))
      ((ParseTree.entitiesList a.source parent next ts).filterMap (tokenScalar? a)) := by
  match ts with
  | [] =>
    rw [plainForest_nil, ParseTree.entitiesList_nil]
    exact SameContent.refl _
  | t :: ts =>
    obtain ⟨ht, hts⟩ := Arena.holdsList_cons.1 h
    rw [plainForest_cons, ParseTree.entitiesList_cons, Item.contentList_append,
      List.filterMap_append]
    exact (sameContent_plainItems ht (hcut next ht.parent?_eq)).append
      (sameContent_plainForest hts hcut)

end

end Holds

/-- No scalar is lost or moved: the tree that a document becomes holds the scalars of the scalar
tokens. Read in document order, the texts of both make up the same text, and the integers and
floating-point numbers of both are the same. -/
theorem content_conserved (d : Document) (version : Int) :
    ∃ b, build? (Arena.ofDocument d) version keep () = some b ∧
      joinedTexts b.tree.content = joinedTexts (tokenScalars (Arena.ofDocument d)) ∧
      numbers b.tree.content = numbers (tokenScalars (Arena.ofDocument d)) := by
  have hsame := sameContent_plainItems version (Arena.holds_ofDocument d) (isCut_zero d)
  rw [Arena.source_ofDocument, ← Arena.entities_ofDocument] at hsame
  refine ⟨plainBuild d version, build?_keep d version, ?_, ?_⟩
  · rw [plainBuild, content_rootNode]
    exact hsame.texts
  · rw [plainBuild, content_rootNode]
    exact hsame.numbers

end SyntaxCursor.Conversion
