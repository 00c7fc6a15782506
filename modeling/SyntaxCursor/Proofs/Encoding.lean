import Mathlib.Logic.Relation
import SyntaxCursor.Concrete.Listing
import SyntaxCursor.Proofs.Placement

/-!
# The arena as an encoding of the parse tree

Nothing of a parse tree is lost in its arena. The entities are the rows of the tree's listing,
and following the children from entity 0 reads the tree back. The links in both directions say
the same, and what can be reached from an entity by going down is a run of numbers that begins
with its own (`Arena.encodes_ofDocument`).
-/
namespace SyntaxCursor.Concrete

def Entity.toRow (e : Entity) : Row := ⟨e.toParseInfo, e.children.length⟩

namespace ParseTree

mutual

theorem map_row_entities (source : List UInt8) (parent : Option Nat) (k : Nat) (t : ParseTree) :
    (entities source parent k t).map Entity.toRow = t.rows := by
  match t with
  | .node info children =>
    rw [entities_node, List.map_cons, map_row_entitiesList, rows_node, Entity.toRow,
      Entity.ofTree_children, length_positions]
    rfl

theorem map_row_entitiesList (source : List UInt8) (parent next : Nat) (ts : List ParseTree) :
    (entitiesList source parent next ts).map Entity.toRow = rowsList ts := by
  match ts with
  | [] => rw [entitiesList_nil, rowsList_nil, List.map_nil]
  | t :: ts =>
    rw [entitiesList_cons, List.map_append, map_row_entities, map_row_entitiesList,
      rowsList_cons]

end

theorem le_of_mem_positions {next c : Nat} {ts : List ParseTree} (h : c ∈ positions next ts) :
    next ≤ c := by
  induction ts generalizing next with
  | nil => simp [positions] at h
  | cons t ts ih =>
    rcases List.mem_cons.1 h with rfl | h
    · exact Nat.le_refl _
    · have hle := ih h
      omega

/-- Trees are numbered in their order. -/
theorem pairwise_positions (next : Nat) (ts : List ParseTree) :
    (positions next ts).Pairwise (· < ·) := by
  induction ts generalizing next with
  | nil => exact List.Pairwise.nil
  | cons t ts ih =>
    refine List.Pairwise.cons ?_ (ih _)
    intro c hc
    have hle := le_of_mem_positions hc
    have hpos := t.size_pos
    omega

end ParseTree

namespace Arena

/-- Entity `c` is among the children of entity `p`. -/
def IsChild (a : Arena) (p c : Nat) : Prop := ∃ e, a.entity? p = some e ∧ c ∈ e.children

/-- Entity `i` belongs to the subtree of entity `k`: going down from child to child leads from
`k` to `i`. -/
def Reaches (a : Arena) : Nat → Nat → Prop := Relation.ReflTransGen a.IsChild

/-- The tree of entity `k`, read by following the children, if it has at most `depth` levels. -/
def treeAt? (a : Arena) : Nat → Nat → Option ParseTree
  | 0, _ => none
  | depth + 1, k =>
    (a.entity? k).bind fun e =>
      (e.children.mapM (a.treeAt? depth)).map (.node e.toParseInfo)

/-- The tree of an arena. There are no more levels than entities. -/
def toTree? (a : Arena) : Option ParseTree := a.treeAt? a.size 0

section Holds

variable {a : Arena}

mutual

/-- A held tree is read back from the number of its root. -/
theorem Holds.treeAt?_eq {parent : Option Nat} {k : Nat} {t : ParseTree}
    (h : a.Holds parent k t) {depth : Nat} (hdepth : t.size ≤ depth) :
    a.treeAt? depth k = some t := by
  match t, depth with
  | .node info children, 0 => simp at hdepth
  | .node info children, depth + 1 =>
    have hsizes : ParseTree.sizes children ≤ depth := by simpa using hdepth
    have hchildren := (holds_node.1 h).2.mapM_treeAt? hsizes
    rw [treeAt?, h.entity?_eq, Option.bind_some, Entity.ofTree_children, ParseTree.children_node,
      hchildren]
    rfl

theorem HoldsList.mapM_treeAt? {parent next : Nat} {ts : List ParseTree}
    (h : a.HoldsList parent next ts) {depth : Nat} (hdepth : ParseTree.sizes ts ≤ depth) :
    (ParseTree.positions next ts).mapM (a.treeAt? depth) = some ts := by
  match ts with
  | [] => rfl
  | t :: ts =>
    obtain ⟨ht, hts⟩ := holdsList_cons.1 h
    rw [ParseTree.sizes_cons] at hdepth
    have hfirst : a.treeAt? depth next = some t := ht.treeAt?_eq (by omega)
    have hrest : (ParseTree.positions (next + t.size) ts).mapM (a.treeAt? depth) = some ts :=
      hts.mapM_treeAt? (by omega)
    rw [ParseTree.positions, List.mapM_cons, hfirst, hrest]
    rfl

end

/-- A root among trees that are held is that of one of them. -/
theorem HoldsList.exists_of_mem_positions {parent next : Nat} {ts : List ParseTree}
    (h : a.HoldsList parent next ts) {c : Nat} (hc : c ∈ ParseTree.positions next ts) :
    ∃ s, a.Holds (some parent) c s ∧ next ≤ c ∧ c + s.size ≤ next + ParseTree.sizes ts := by
  induction ts generalizing next with
  | nil => simp [ParseTree.positions] at hc
  | cons t ts ih =>
    obtain ⟨ht, hts⟩ := holdsList_cons.1 h
    rw [ParseTree.sizes_cons]
    rcases List.mem_cons.1 hc with rfl | hc
    · exact ⟨t, ht, Nat.le_refl _, by omega⟩
    · obtain ⟨s, hs, hlo, hhi⟩ := ih hts hc
      exact ⟨s, hs, by omega, by omega⟩

/-- Going down from inside a held tree leads to entities inside it. -/
theorem Holds.reaches_mem {parent : Option Nat} {k : Nat} {t : ParseTree}
    (h : a.Holds parent k t) {i : Nat} (hreach : a.Reaches k i) : k ≤ i ∧ i < k + t.size := by
  induction hreach with
  | refl =>
    have hpos := t.size_pos
    omega
  | tail _ hchild ih =>
    obtain ⟨e, he, hc⟩ := hchild
    obtain ⟨q, s, hs, hsize⟩ := h.exists_subtree ih.1 ih.2
    obtain rfl : e = Entity.ofTree a.source q _ s := Option.some.inj (he.symm.trans hs.entity?_eq)
    cases s with
    | node info children =>
      obtain ⟨u, _, hlo, hhi⟩ := hs.children.exists_of_mem_positions hc
      have hpos := u.size_pos
      simp only [ParseTree.size_node, ParseTree.children_node] at hsize hlo hhi
      omega

end Holds

section OfDocument

variable (d : Document)

theorem mem_childrenOf {entries : List Entry} {p c : Nat} :
    c ∈ childrenOf entries p ↔ ∃ entry, entries[c]? = some entry ∧ entry.parent = some p := by
  rw [childrenOf, List.mem_filterMap]
  constructor
  · rintro ⟨⟨entry, i⟩, hmem, hsome⟩
    have hget := List.mem_zipIdx_iff_getElem?.1 hmem
    by_cases hp : entry.parent = some p
    · obtain rfl : i = c := by simpa [hp] using hsome
      exact ⟨entry, hget, hp⟩
    · simp [hp] at hsome
  · rintro ⟨entry, hget, hp⟩
    exact ⟨(entry, c), List.mem_zipIdx_iff_getElem?.2 hget, by simp [hp]⟩

/-- An entity is among the children of another exactly if it hangs under it. -/
theorem isChild_iff {p c : Nat} :
    (ofDocument d).IsChild p c ↔ (ofDocument d).parent? c = some p := by
  have hparent : (ofDocument d).parent? c = some p ↔
      ∃ entry, (d.tree.entries none 0)[c]? = some entry ∧ entry.parent = some p := by
    rw [parent?, entity?_ofDocument, Option.bind_map, Option.bind_eq_some_iff]
    rfl
  rw [hparent, ← mem_childrenOf]
  constructor
  · rintro ⟨e, he, hc⟩
    rw [entity?_ofDocument, Option.map_eq_some_iff] at he
    obtain ⟨entry, _, rfl⟩ := he
    exact hc
  · intro hc
    have hlt : p < c := parent?_lt (hparent.2 (mem_childrenOf.1 hc))
    obtain ⟨entry, hget, _⟩ := mem_childrenOf.1 hc
    have hlen := (List.getElem?_eq_some_iff.1 hget).1
    refine ⟨Entity.ofEntry d.source (childrenOf (d.tree.entries none 0) p)
      (d.tree.entries none 0)[p] p, ?_, hc⟩
    rw [entity?_ofDocument, List.getElem?_eq_getElem (by omega), Option.map_some]

/-- What encloses an entity reaches it. -/
theorem reaches_of_mem_ancestors {j i : Nat} (h : j ∈ (ofDocument d).ancestors i) :
    (ofDocument d).Reaches j i := by
  induction i using Nat.strongRecOn with
  | ind i ih =>
    cases hp : (ofDocument d).parent? i with
    | none => simp [ancestors_of_parent?_eq_none hp] at h
    | some p =>
      have hstep := (isChild_iff d).2 hp
      rw [ancestors_of_parent?_eq_some hp] at h
      rcases List.mem_cons.1 h with rfl | h
      · exact Relation.ReflTransGen.single hstep
      · exact (ih p (parent?_lt hp) h).tail hstep

/-- What encloses an entity are just the others that reach it. -/
theorem mem_ancestors_iff {j i : Nat} :
    j ∈ (ofDocument d).ancestors i ↔ j ≠ i ∧ (ofDocument d).Reaches j i := by
  constructor
  · intro h
    exact ⟨Nat.ne_of_lt (lt_of_mem_ancestors h), reaches_of_mem_ancestors d h⟩
  · rintro ⟨hne, hreach⟩
    induction hreach with
    | refl => exact absurd rfl hne
    | @tail b i _ hchild ih =>
      rw [ancestors_of_parent?_eq_some ((isChild_iff d).1 hchild), List.mem_cons]
      by_cases hjb : j = b
      · exact Or.inl hjb
      · exact Or.inr (ih hjb)

/-- The subtree of an entity is the run of numbers that its tree takes up. -/
theorem reaches_iff_of_holds {parent : Option Nat} {k : Nat} {t : ParseTree}
    (h : (ofDocument d).Holds parent k t) {i : Nat} :
    (ofDocument d).Reaches k i ↔ k ≤ i ∧ i < k + t.size := by
  constructor
  · exact h.reaches_mem
  · rintro ⟨hlo, hhi⟩
    rcases Nat.eq_or_lt_of_le hlo with rfl | hlt
    · exact Relation.ReflTransGen.refl
    · exact reaches_of_mem_ancestors d (h.mem_ancestors hlt hhi)

end OfDocument

/-- What it means that an arena encodes the parse tree `t` of a source text. -/
structure Encodes (a : Arena) (source : List UInt8) (t : ParseTree) : Prop where
  /-- The entities are numbered in pre-order. -/
  rows_eq : a.entities.toList.map Entity.toRow = t.rows
  /-- Following the children from entity 0 gives the tree, with all that the parser said. -/
  toTree?_eq : a.toTree? = some t
  index_eq : ∀ k e, a.entity? k = some e → e.index = k
  isChild_iff_parent? : ∀ p c, a.IsChild p c ↔ a.parent? c = some p
  lt_of_isChild : ∀ p c, a.IsChild p c → p < c
  children_increasing : ∀ k e, a.entity? k = some e → e.children.Pairwise (· < ·)
  /-- The subtree of an entity is a run of numbers that begins with its own. -/
  subtree_run : ∀ k < a.size, ∃ n, 0 < n ∧ ∀ i, a.Reaches k i ↔ k ≤ i ∧ i < k + n
  isToken_iff : ∀ k e, a.entity? k = some e → (e.isToken = true ↔ k ≠ 0 ∧ e.children = [])
  /-- Place `j` of the text of a token holds the source byte at `e.start + j`, as far as the
  span and the source go. -/
  getElem?_text : ∀ k e, a.entity? k = some e → e.isToken = true →
    ∀ j, e.text[j]? = if e.start + j < e.stop then source[e.start + j]? else none
  text_eq_nil : ∀ k e, a.entity? k = some e → e.isToken = false → e.text = []

section OfDocument

variable {d : Document}

theorem toTree?_ofDocument : (ofDocument d).toTree? = some d.tree :=
  (holds_ofDocument d).treeAt?_eq (by simp)

/-- Only the root hangs under nothing. -/
theorem isSome_parent_iff {k : Nat} {e : Entity} (he : (ofDocument d).entity? k = some e) :
    e.parent.isSome = true ↔ k ≠ 0 := by
  have hparent : (ofDocument d).parent? k = e.parent := by simp [parent?, he]
  constructor
  · intro hsome hzero
    rw [← hparent, hzero, (holds_ofDocument d).parent?_eq] at hsome
    contradiction
  · intro hne
    have hmem := (holds_ofDocument d).mem_ancestors (Nat.pos_of_ne_zero hne)
      (by simpa using lt_size_of_entity? he)
    cases hp : (ofDocument d).parent? k with
    | none => simp [ancestors_of_parent?_eq_none hp] at hmem
    | some p => rw [← hparent, hp, Option.isSome_some]

theorem isToken_iff_of_entity? {k : Nat} {e : Entity} (he : (ofDocument d).entity? k = some e) :
    e.isToken = true ↔ k ≠ 0 ∧ e.children = [] := by
  have hroot := isSome_parent_iff he
  obtain ⟨p, s, _, rfl⟩ := exists_eq_ofTree d he
  rw [Entity.ofTree_parent] at hroot
  rw [Entity.ofTree_isToken, Bool.and_eq_true, hroot, Entity.ofTree_children]
  cases s.children with
  | nil => simp [ParseTree.positions]
  | cons t ts => simp [ParseTree.positions]

/-- The arena of a document encodes its parse tree. -/
theorem encodes_ofDocument (d : Document) : (ofDocument d).Encodes d.source d.tree where
  rows_eq := by rw [entities_ofDocument, ParseTree.map_row_entities]
  toTree?_eq := toTree?_ofDocument
  index_eq _ _ he := index_of_entity? d he
  isChild_iff_parent? _ _ := isChild_iff d
  lt_of_isChild _ _ h := parent?_lt ((isChild_iff d).1 h)
  children_increasing k e he := by
    obtain ⟨p, s, _, rfl⟩ := exists_eq_ofTree d he
    exact ParseTree.pairwise_positions _ _
  subtree_run k hk := by
    obtain ⟨p, s, hs, _⟩ := exists_holds d hk
    exact ⟨s.size, s.size_pos, fun i => reaches_iff_of_holds d hs⟩
  isToken_iff _ _ he := isToken_iff_of_entity? he
  getElem?_text k e he htoken j := by
    obtain ⟨p, s, _, rfl⟩ := exists_eq_ofTree d he
    rw [Entity.ofTree_text, if_pos htoken, getElem?_slice]
    rfl
  text_eq_nil k e he htoken := by
    obtain ⟨p, s, _, rfl⟩ := exists_eq_ofTree d he
    rw [Entity.ofTree_text, htoken, if_neg Bool.false_ne_true]

end OfDocument

/-- The statement `$a;`, with two spans that no parser should report: the last one begins
behind its end, and the one before it goes on behind the source. -/
def overlongStatement : Document where
  source := [36, 97, 59]
  tree :=
    .node ⟨"program", 0, 3, 0, 0, true, false⟩
      [.node ⟨"variable_name", 0, 2, 0, 0, true, false⟩
        [.node ⟨"$", 0, 1, 0, 0, false, false⟩ [], .node ⟨"name", 1, 2, 0, 1, true, false⟩ []],
        .node ⟨";", 2, 9, 0, 2, false, false⟩ [], .node ⟨"comment", 2, 1, 0, 2, true, false⟩ []]
  hasError := false

/-- The numbers, links and texts of a whole arena. -/
theorem encodes_overlongStatement :
    (ofDocument overlongStatement).Encodes overlongStatement.source overlongStatement.tree ∧
      (ofDocument overlongStatement).entities.toList.map
          (fun e => (e.index, e.kind, e.parent, e.children, e.text)) =
        [(0, "program", none, [1, 4, 5], []), (1, "variable_name", some 0, [2, 3], []),
          (2, "$", some 1, [], [36]), (3, "name", some 1, [], [97]),
          (4, ";", some 0, [], [59]), (5, "comment", some 0, [], [])] :=
  ⟨encodes_ofDocument overlongStatement, by decide⟩

end Arena

end SyntaxCursor.Concrete
