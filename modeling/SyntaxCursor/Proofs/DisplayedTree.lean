import Mathlib.Data.List.Forall2
import SyntaxCursor.Proofs.Growing
import SyntaxCursor.Proofs.Labels
import SyntaxCursor.Proofs.OneSelected

/-!
# The shown tree and the abstract tree

Read in document order, the branches of the shown tree are the labels of the nodes of the abstract
tree, each at the depth of its node. The tree can be shown just if every label can be written, and
then the labels of the selected nodes, and no others, end with the highlight: a kind can be any
text, but behind it stand the extent, which ends with a tag of its own, and the scalars, none of
which ends with a closing bracket (`displayTree_mirrors`). In which order the branches are added
does not matter for any of this, since the tree follows the abstract tree down (`displayTree_eq`).
-/
namespace SyntaxCursor.Abstract

namespace Item

mutual

/-- The nodes of an item in document order, each with its depth, if the item is at `depth`. -/
def leveled (depth : Nat) : Item → List (Nat × Node)
  | .scalar _ => []
  | .node info children => (depth, ⟨info, children⟩) :: leveledList (depth + 1) children

/-- The nodes of items at `depth` in document order, each with its depth. -/
def leveledList (depth : Nat) : List Item → List (Nat × Node)
  | [] => []
  | i :: is => leveled depth i ++ leveledList depth is

end

@[simp] theorem leveled_scalar (depth : Nat) (value : Scalar) :
    leveled depth (.scalar value) = [] := by
  rw [leveled]

theorem leveled_node (depth : Nat) (info : NodeInfo) (children : List Item) :
    leveled depth (.node info children) =
      (depth, ⟨info, children⟩) :: leveledList (depth + 1) children := by
  rw [leveled]

@[simp] theorem leveledList_nil (depth : Nat) : leveledList depth [] = [] := by rw [leveledList]

theorem leveledList_cons (depth : Nat) (i : Item) (is : List Item) :
    leveledList depth (i :: is) = leveled depth i ++ leveledList depth is := by
  rw [leveledList]

mutual

theorem map_snd_leveled (depth : Nat) (i : Item) : (leveled depth i).map Prod.snd = nodes i := by
  match i with
  | .scalar value => simp
  | .node info children => rw [leveled_node, List.map_cons, map_snd_leveledList, nodes_node]

theorem map_snd_leveledList (depth : Nat) (is : List Item) :
    (leveledList depth is).map Prod.snd = nodesList is := by
  match is with
  | [] => simp
  | i :: is =>
    rw [leveledList_cons, List.map_append, map_snd_leveled, map_snd_leveledList, nodesList_cons]

end

end Item

/-- The nodes of a tree in document order, each with its depth. -/
def Node.leveled (n : Node) : List (Nat × Node) := n.toItem.leveled 0

theorem Node.map_snd_leveled (n : Node) : n.leveled.map Prod.snd = n.nodes := by
  rw [leveled, Item.map_snd_leveled, nodes_toItem]

end SyntaxCursor.Abstract

namespace SyntaxCursor.Display

open Abstract Concrete Conversion

namespace DisplayTree

variable {α : Type}

mutual

/-- The labels of a tree at `depth` in document order, each with its depth. -/
def leveledFrom (depth : Nat) : DisplayTree α → List (Nat × α)
  | .branch label branches => (depth, label) :: leveledFromList (depth + 1) branches

/-- The labels of trees at `depth` in document order, each with its depth. -/
def leveledFromList (depth : Nat) : List (DisplayTree α) → List (Nat × α)
  | [] => []
  | t :: ts => leveledFrom depth t ++ leveledFromList depth ts

end

theorem leveledFrom_branch (depth : Nat) (label : α) (branches : List (DisplayTree α)) :
    leveledFrom depth (.branch label branches) =
      (depth, label) :: leveledFromList (depth + 1) branches := by
  rw [leveledFrom]

@[simp] theorem leveledFromList_nil (depth : Nat) :
    leveledFromList depth ([] : List (DisplayTree α)) = [] := by
  rw [leveledFromList]

theorem leveledFromList_cons (depth : Nat) (t : DisplayTree α) (ts : List (DisplayTree α)) :
    leveledFromList depth (t :: ts) = leveledFrom depth t ++ leveledFromList depth ts := by
  rw [leveledFromList]

theorem leveledFromList_append (depth : Nat) (ts us : List (DisplayTree α)) :
    leveledFromList depth (ts ++ us) = leveledFromList depth ts ++ leveledFromList depth us := by
  induction ts with
  | nil => simp
  | cons t ts ih => simp [leveledFromList_cons, ih]

/-- The labels of a tree in document order, each with its depth. -/
def leveled (t : DisplayTree α) : List (Nat × α) := t.leveledFrom 0

end DisplayTree

open DisplayTree

mutual

theorem leveledFromList_itemBranches (depth : Nat) (i : Item) :
    leveledFromList depth (itemBranches i) =
      (i.leveled depth).map fun m => (m.1, label m.2) := by
  match i with
  | .scalar value => simp [itemBranches]
  | .node info children =>
    rw [itemBranches, leveledFromList_cons, leveledFromList_nil, List.append_nil,
      leveledFrom_branch, leveledFromList_listBranches, Item.leveled_node, List.map_cons]

theorem leveledFromList_listBranches (depth : Nat) (is : List Item) :
    leveledFromList depth (listBranches is) =
      (Item.leveledList depth is).map fun m => (m.1, label m.2) := by
  match is with
  | [] => simp [listBranches]
  | i :: is =>
    rw [listBranches, leveledFromList_append, leveledFromList_itemBranches,
      leveledFromList_listBranches, Item.leveledList_cons, List.map_append]

end

/-- Read in document order, the branches of the shown tree have the labels of the nodes, at their
depths. -/
theorem leveled_displayTree (n : Node) :
    (displayTree n).leveled = n.leveled.map fun m => (m.1, label m.2) := by
  rw [leveled, displayTree_eq, leveledFrom_branch, leveledFromList_listBranches, Node.leveled,
    Node.toItem, Item.leveled_node, List.map_cons]

section Written

variable {ε α : Type}

mutual

/-- What is written out is what was to be written, branch by branch. -/
theorem forall₂_of_written {t : DisplayTree (Except ε α)} {t' : DisplayTree α}
    (h : written t = .ok t') (depth : Nat) :
    List.Forall₂ (fun b b' => b.1 = b'.1 ∧ b.2 = .ok b'.2) (leveledFrom depth t)
      (leveledFrom depth t') := by
  match t with
  | .branch label branches =>
    rw [written] at h
    obtain ⟨text, hlabel, h⟩ := exists_of_bind_eq_ok h
    obtain ⟨branches', hbranches, h⟩ := exists_of_bind_eq_ok h
    obtain rfl := Except.ok.inj h
    rw [leveledFrom_branch, leveledFrom_branch]
    exact .cons ⟨rfl, hlabel⟩ (forall₂_of_writtenList hbranches (depth + 1))

theorem forall₂_of_writtenList {ts : List (DisplayTree (Except ε α))}
    {ts' : List (DisplayTree α)} (h : writtenList ts = .ok ts') (depth : Nat) :
    List.Forall₂ (fun b b' => b.1 = b'.1 ∧ b.2 = .ok b'.2) (leveledFromList depth ts)
      (leveledFromList depth ts') := by
  match ts with
  | [] =>
    rw [writtenList] at h
    obtain rfl := Except.ok.inj h
    simp
  | t :: ts =>
    rw [writtenList] at h
    obtain ⟨t', ht, h⟩ := exists_of_bind_eq_ok h
    obtain ⟨ts', hts, h⟩ := exists_of_bind_eq_ok h
    obtain rfl := Except.ok.inj h
    rw [leveledFromList_cons, leveledFromList_cons]
    exact List.rel_append (forall₂_of_written ht depth) (forall₂_of_writtenList hts depth)

end

mutual

/-- A tree can be written out if each of its labels can. -/
theorem exists_written {t : DisplayTree (Except ε α)} {depth : Nat}
    (h : ∀ b ∈ leveledFrom depth t, ∃ text, b.2 = .ok text) : ∃ t', written t = .ok t' := by
  match t with
  | .branch label branches =>
    rw [leveledFrom_branch, List.forall_mem_cons] at h
    obtain ⟨⟨text, hlabel⟩, hbelow⟩ := h
    obtain ⟨branches', hbranches⟩ := exists_writtenList hbelow
    obtain rfl : label = .ok text := hlabel
    exact ⟨.branch text branches', by rw [written, hbranches]; rfl⟩

theorem exists_writtenList {ts : List (DisplayTree (Except ε α))} {depth : Nat}
    (h : ∀ b ∈ leveledFromList depth ts, ∃ text, b.2 = .ok text) :
    ∃ ts', writtenList ts = .ok ts' := by
  match ts with
  | [] => exact ⟨[], by rw [writtenList]⟩
  | t :: ts =>
    rw [leveledFromList_cons, List.forall_mem_append] at h
    obtain ⟨t', ht⟩ := exists_written h.1
    obtain ⟨ts', hts⟩ := exists_writtenList h.2
    exact ⟨t' :: ts', by rw [writtenList, ht, hts]; rfl⟩

end

end Written

/-- Whether a label is put between the tags of the highlight, with the word that goes with it. -/
def isHighlighted (cs : List Char) : Bool :=
  "[bold green]".toList.isPrefixOf cs && " <selected>[/bold green]".toList.isSuffixOf cs

theorem isHighlighted_iff {cs : List Char} :
    isHighlighted cs = true ↔
      "[bold green]".toList <+: cs ∧ " <selected>[/bold green]".toList <:+ cs := by
  rw [isHighlighted, Bool.and_eq_true, List.isPrefixOf_iff_prefix, List.isSuffixOf_iff_suffix]

/-- Separated texts end with a bracket only if one of them or the separator does. -/
theorem getLast?_separated_ne {separator : List Char} (hseparator : separator.getLast? ≠ some ']')
    {ts : List (List Char)} (hts : ∀ t ∈ ts, t.getLast? ≠ some ']') :
    (separated separator ts).getLast? ≠ some ']' := by
  have happend {xs ys : List Char} (hxs : xs.getLast? ≠ some ']') (hys : ys.getLast? ≠ some ']') :
      (xs ++ ys).getLast? ≠ some ']' := by
    rw [List.getLast?_append, Ne, Option.or_eq_some_iff]
    exact fun h => h.elim hys fun h => hxs h.2
  induction ts generalizing separator with
  | nil => simp [separated]
  | cons t ts ih =>
    obtain ⟨ht, hrest⟩ := List.forall_mem_cons.1 hts
    have hescape : (escape t).getLast? ≠ some ']' := by
      rwa [escape_eq, getLast?_go, List.replicate_zero, List.nil_append]
    exact happend hseparator (happend hescape (ih (by decide) hrest))

/-- The label of an unselected node ends with the tag of its extent or with a text. -/
theorem not_suffix_labelOf {info : NodeInfo} (hselected : info.selected = false)
    {texts : List (List Char)} (htexts : ∀ t ∈ texts, t.getLast? ≠ some ']') :
    ¬ " <selected>[/bold green]".toList <:+
      labelOf info (extentOf info) (texts.map escape) := by
  rintro ⟨before, hbefore⟩
  obtain ⟨front, hlabel⟩ : ∃ front, labelOf info (extentOf info) (texts.map escape) =
      (front ++ "[/dim]".toList) ++ separated [' '] texts := by
    refine ⟨info.kind.toList ++ " [dim](line ".toList ++ extentOf info ++ [')'], ?_⟩
    rw [separated_eq, labelOf, hselected]
    simp
  rw [hlabel] at hbefore
  cases texts with
  | nil =>
    have htag : " <selected>[/bold green]".toList =
        " <selected>[/bold gree".toList ++ ['n', ']'] := by decide
    have hdim : "[/dim]".toList = "[/di".toList ++ ['m', ']'] := by decide
    rw [separated, List.append_nil, htag, hdim, ← List.append_assoc, ← List.append_assoc]
      at hbefore
    exact absurd (List.append_inj_right' hbefore rfl) (by decide)
  | cons t ts =>
    have hlast := congrArg List.getLast? hbefore
    obtain ⟨c, hc⟩ : ∃ c, (separated [' '] (t :: ts)).getLast? = some c := by
      rw [separated, List.singleton_append, List.getLast?_cons]
      exact ⟨_, rfl⟩
    have hne : c ≠ ']' := by
      rintro rfl
      exact getLast?_separated_ne (by decide) htexts hc
    rw [List.getLast?_append, List.getLast?_append, hc, Option.some_or] at hlast
    exact hne (Option.some.inj hlast).symm

theorem isHighlighted_labelOf {info : NodeInfo} {texts : List (List Char)}
    (htexts : ∀ t ∈ texts, t.getLast? ≠ some ']') :
    isHighlighted (labelOf info (extentOf info) (texts.map escape)) = info.selected := by
  cases hselected : info.selected with
  | false =>
    rw [isHighlighted, Bool.and_eq_false_iff]
    refine .inr (Bool.eq_false_iff.2 fun hsuffix => ?_)
    exact not_suffix_labelOf hselected htexts (List.isSuffixOf_iff_suffix.1 hsuffix)
  | true =>
    rw [isHighlighted_iff, labelOf, hselected, if_pos rfl]
    exact ⟨(List.prefix_append _ _).trans (List.prefix_append _ _), List.suffix_append _ _⟩

/-- The labels of the selected nodes are highlighted, and no others. -/
theorem isHighlighted_label {m : Node} {cs : List Char} (h : label m = .ok cs) :
    isHighlighted cs = m.info.selected := by
  obtain ⟨texts, hmap, rfl⟩ := label_eq_ok h
  refine isHighlighted_labelOf fun t ht => ?_
  obtain ⟨value, _, hvalue⟩ := exists_of_mem_mapM hmap ht
  exact getLast?_scalarText_ne hvalue

/-- What it means that a node at a depth of the abstract tree is shown by a branch. -/
structure IsShownBy (node : Nat × Node) (branch : Nat × List Char) : Prop where
  depth_eq : branch.1 = node.1
  label_eq : label node.2 = .ok branch.2
  isHighlighted_eq : isHighlighted branch.2 = node.2.info.selected

theorem forall₂_isShownBy {n : Node} {t : DisplayTree (List Char)}
    (h : written (displayTree n) = .ok t) : List.Forall₂ IsShownBy n.leveled t.leveled := by
  have hwritten := forall₂_of_written h 0
  rw [show leveledFrom 0 (displayTree n) = _ from leveled_displayTree n,
    List.forall₂_map_left_iff] at hwritten
  exact hwritten.imp fun m b hb => ⟨hb.1.symm, hb.2, isHighlighted_label hb.2⟩

/-- There are as many highlighted branches as selected nodes. -/
theorem countP_isHighlighted {nodes : List (Nat × Node)} {branches : List (Nat × List Char)}
    (h : List.Forall₂ IsShownBy nodes branches) :
    branches.countP (fun b => isHighlighted b.2) =
      (nodes.map Prod.snd).countP (·.info.selected) := by
  induction h with
  | nil => rfl
  | cons hshown _ ih =>
    rw [List.countP_cons, List.map_cons, List.countP_cons, ih, hshown.isHighlighted_eq]

theorem exists_isShownBy {nodes : List (Nat × Node)} {branches : List (Nat × List Char)}
    (h : List.Forall₂ IsShownBy nodes branches) {m : Nat × Node} (hm : m ∈ nodes) :
    ∃ b, IsShownBy m b := by
  induction h with
  | nil => contradiction
  | cons hshown _ ih =>
    cases hm with
    | head => exact ⟨_, hshown⟩
    | tail _ hm => exact ih hm

theorem exists_written_iff (n : Node) :
    (∃ t, written (displayTree n) = .ok t) ↔ ∀ m ∈ n.nodes, ∃ cs, label m = .ok cs := by
  rw [← n.map_snd_leveled, List.forall_mem_map]
  constructor
  · rintro ⟨t, ht⟩ m hm
    obtain ⟨b, hb⟩ := exists_isShownBy (forall₂_isShownBy ht) hm
    exact ⟨b.2, hb.label_eq⟩
  · intro hlabels
    have hall : ∀ b ∈ (displayTree n).leveled, ∃ cs, b.2 = .ok cs := by
      rw [leveled_displayTree, List.forall_mem_map]
      exact hlabels
    exact exists_written hall

/-- An integer has few enough decimal digits to be written. -/
def IsWritable (k : Int) : Prop := (Nat.toDigits 10 k.natAbs).length ≤ 4300

theorem exists_numeralText_iff (n : Int) : (∃ cs, numeralText n = .ok cs) ↔ IsWritable n := by
  have hlong : Number.tooLong n = true ↔ ¬ IsWritable n := by
    rw [Number.tooLong, decide_eq_true_iff, Nat.pow_eq, ← Nat.not_lt,
      ← Nat.length_toDigits_le_iff (by decide) (by decide), IsWritable, Number.decimalLimit]
  rw [← not_iff_not, ← hlong, numeralText]
  cases Number.tooLong n with
  | true => simp
  | false => simp

/-- Of the scalars an integer alone may be too long to be written. -/
theorem exists_scalarText_iff (value : Scalar) :
    (∃ cs, scalarText value = .ok cs) ↔ ∀ k, value = .int k → IsWritable k := by
  cases value with
  | int n => simpa [scalarText] using exists_numeralText_iff n
  | null => simp [scalarText]
  | text s => simp [scalarText]
  | float x => simp [scalarText]

/-- A label can be written just if all its integers have at most 4300 digits. -/
theorem exists_label_iff (n : Node) :
    (∃ cs, label n = .ok cs) ↔
      (∀ k ∈ [n.info.line, n.info.start, n.info.stop], IsWritable k) ∧
        ∀ k, Scalar.int k ∈ n.scalars → IsWritable k := by
  have hscalars : (∃ texts, n.scalars.mapM scalarText = .ok texts) ↔
      ∀ k, Scalar.int k ∈ n.scalars → IsWritable k := by
    simp only [exists_mapM_ok_iff, exists_scalarText_iff]
    exact ⟨fun h k hk => h _ hk k rfl, fun h value hvalue k hk => h k (hk ▸ hvalue)⟩
  rw [← hscalars]
  simp only [List.forall_mem_cons, ← exists_numeralText_iff, List.not_mem_nil]
  constructor
  · rintro ⟨cs, h⟩
    unfold label at h
    obtain ⟨line, hline, h⟩ := exists_of_bind_eq_ok h
    obtain ⟨start, hstart, h⟩ := exists_of_bind_eq_ok h
    obtain ⟨stop, hstop, h⟩ := exists_of_bind_eq_ok h
    obtain ⟨texts, htexts, h⟩ := exists_of_bind_eq_ok h
    exact ⟨⟨⟨line, hline⟩, ⟨start, hstart⟩, ⟨stop, hstop⟩, by simp⟩, texts, htexts⟩
  · rintro ⟨⟨⟨line, hline⟩, ⟨start, hstart⟩, ⟨stop, hstop⟩, -⟩, texts, htexts⟩
    unfold label
    rw [hline, hstart, hstop, htexts]
    exact ⟨_, rfl⟩

/-- The nodes with their depths are listed in document order. The tree is shown just if the labels
of all nodes can be written, which is so unless an integer in one has more than 4300 digits. Then
its branches show the nodes one by one in that order: each is at the depth of its node, has its
label, and is highlighted just if the node is selected. The tree that answers a request has at most
one highlighted branch. -/
theorem displayTree_mirrors (n : Node) :
    n.leveled.map Prod.snd = n.nodes ∧
      ((∃ t, written (displayTree n) = .ok t) ↔ ∀ m ∈ n.nodes, ∃ cs, label m = .ok cs) ∧
      (∀ m : Node, (∃ cs, label m = .ok cs) ↔
        (∀ k ∈ [m.info.line, m.info.start, m.info.stop], IsWritable k) ∧
          ∀ k, Scalar.int k ∈ m.scalars → IsWritable k) ∧
      (∀ t, written (displayTree n) = .ok t → List.Forall₂ IsShownBy n.leveled t.leveled) ∧
      ∀ (π : Type) [Concrete.SelectionPolicy π] (c : Converter π) (r : Request)
        (result : Result) (t : DisplayTree (List Char)),
        (c.convert r).answer = .ok result → written (displayTree result.tree) = .ok t →
          t.leveled.countP (fun b => isHighlighted b.2) ≤ 1 := by
  refine ⟨n.map_snd_leveled, exists_written_iff n, exists_label_iff,
    fun t ht => forall₂_isShownBy ht, ?_⟩
  intro π _ c r result t hanswer ht
  rw [countP_isHighlighted (forall₂_isShownBy ht), Node.map_snd_leveled]
  exact selectedCount_of_answer hanswer

/-- At the arrow of the statement, the branch of the access to the property is highlighted. -/
theorem displayTree_propertyStatement :
    let r : Request := { document := propertyStatement, version := .number 80, offset := 2 }
    let c : Converter NamePolicy := { policy := .standard }
    ∃ result t, (c.convert r).answer = .ok result ∧
      written (displayTree result.tree) = .ok t ∧
        List.Forall₂ IsShownBy result.tree.leveled t.leveled ∧
          t.leveled.countP (fun b => isHighlighted b.2) ≤ 1 ∧
            t.leveled.map (fun b => (b.1, isHighlighted b.2)) =
              [(0, false), (1, true), (2, false)] := by
  intro r c
  have hcomputed : ((c.convert r).answer.toOption.bind fun result =>
      (written (displayTree result.tree)).toOption.map fun t =>
        t.leveled.map fun b => (b.1, isHighlighted b.2)) =
      some [(0, false), (1, true), (2, false)] := by
    decide +kernel
  obtain ⟨result, hanswer, hshown⟩ := Option.bind_eq_some_iff.1 hcomputed
  obtain ⟨t, hwritten, hbranches⟩ := Option.map_eq_some_iff.1 hshown
  have hanswer := ok_of_toOption hanswer
  have hwritten := ok_of_toOption hwritten
  obtain ⟨_, _, _, hmirrored, hmost⟩ := displayTree_mirrors result.tree
  exact ⟨result, t, hanswer, hwritten, hmirrored t hwritten,
    hmost _ c r result t hanswer hwritten, hbranches⟩

end SyntaxCursor.Display
