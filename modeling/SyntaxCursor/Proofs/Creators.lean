import SyntaxCursor.Proofs.Finished
import SyntaxCursor.Proofs.Parents

/-!
# The nodes of a document and their creators

A creator is an entity for which a node is made: when the walk finishes it and the rules make
one, or at the end around the items of the root. The nodes of the tree of a document are, in
document order, those of its creators in the order of their numbers, and a node hangs under the
node of the nearest creator around its own (`nodes_correspond`). A node stands for its creator
by its place in document order, since nodes with the same fields can occur more than once.
-/
namespace SyntaxCursor.Concrete.ParseTree

theorem entities_eq_cons (source : List UInt8) (parent : Option Nat) (k : Nat) (t : ParseTree) :
    t.entities source parent k =
      Entity.ofTree source parent k t :: entitiesList source k (k + 1) t.children := by
  cases t with
  | node info children => rw [entities_node, children_node]

end SyntaxCursor.Concrete.ParseTree

namespace SyntaxCursor.Conversion

open Abstract Concrete

/-- The items of the children of an entity, joined. -/
def itemsBelow (a : Arena) (version : Int) (e : Entity) : List Item :=
  e.children.flatMap fun c => (itemsAt? a version c).getD []

/-- Whether the root becomes anything but a single node, so that a list of statements is made
around its items. -/
def wrapsRoot (a : Arena) (version : Int) : Bool :=
  ((itemsAt? a version 0).bind singleNode?).isNone

/-- Whether a node is made for an entity: by the rules when the walk finishes it, or around the
items of the root. -/
def creates (a : Arena) (version : Int) (e : Entity) : Bool :=
  ((finished a version).contains e.index && makesNode e (itemsBelow a version e)) ||
    (e.index == 0 && wrapsRoot a version)

/-- The entities for which a node is made, in the order of their numbers. -/
def creators (a : Arena) (version : Int) : List Entity :=
  a.entities.toList.filter (creates a version)

/-- The nearest entity around entity `k` for which a node is made. -/
def owner? (a : Arena) (version : Int) (k : Nat) : Option Nat :=
  (a.ancestors k).find? fun j => (a.entity? j).any (creates a version)

/-- The number of the creator of the node at a place in document order. -/
def creatorAt? (a : Arena) (version : Int) (place : Nat) : Option Nat :=
  ((creators a version)[place]?).map (·.index)

theorem owner?_of_parent? {a : Arena} {c k : Nat} {e : Entity} (hc : a.parent? c = some k)
    (he : a.entity? k = some e) (version : Int) :
    owner? a version c = if creates a version e then some k else owner? a version k := by
  rw [owner?, Arena.ancestors_of_parent?_eq_some hc, List.find?_cons, he, Option.any_some]
  cases creates a version e <;> rfl

theorem flatMap_itemsAt? {a : Arena} {parent next : Nat} {ts : List ParseTree}
    (h : a.HoldsList parent next ts) (hsize : next + ParseTree.sizes ts ≤ a.size)
    (version : Int) :
    ((ParseTree.positions next ts).flatMap fun c => (itemsAt? a version c).getD []) =
      plainForest a.source version parent next ts := by
  induction ts generalizing next with
  | nil => rw [plainForest_nil]; rfl
  | cons t ts ih =>
    obtain ⟨ht, hts⟩ := Arena.holdsList_cons.1 h
    rw [ParseTree.sizes_cons] at hsize
    rw [ParseTree.positions, List.flatMap_cons, itemsAt?_eq ht (by omega), Option.getD_some,
      ih hts (by omega), plainForest_cons]

theorem itemsBelow_of_holds {a : Arena} {parent : Option Nat} {k : Nat} {info : ParseInfo}
    {children : List ParseTree} (h : a.Holds parent k (.node info children))
    (hsize : k + (ParseTree.node info children).size ≤ a.size) (version : Int) :
    itemsBelow a version (Entity.ofTree a.source parent k (.node info children)) =
      plainForest a.source version k (k + 1) children := by
  rw [ParseTree.size_node] at hsize
  exact flatMap_itemsAt? (Arena.holds_node.1 h).2 (by omega) version

section OfDocument

variable {d : Document} {version : Int}

theorem wrapsRoot_ofDocument (d : Document) (version : Int) :
    wrapsRoot (Arena.ofDocument d) version =
      (singleNode? (plainItems d.source version none 0 d.tree)).isNone := by
  rw [wrapsRoot, itemsAt?_eq (Arena.holds_ofDocument d) (by simp)]
  rfl

/-- No node is made for an entity below a missing one. -/
theorem isCut_of_creates {e : Entity} (h : creates (Arena.ofDocument d) version e = true) :
    isCut (Arena.ofDocument d) e.index = false := by
  rw [creates, Bool.or_eq_true, Bool.and_eq_true, Bool.and_eq_true, List.contains_iff_mem,
    mem_finished, beq_iff_eq] at h
  rcases h with ⟨⟨_, hcut⟩, _⟩ | ⟨hroot, _⟩
  · exact hcut
  · rw [hroot, isCut_zero]

/-- Away from a root with a list around its items, only the rules decide whether a node is made. -/
theorem creates_of_holds {parent : Option Nat} {k : Nat} {info : ParseInfo}
    {children : List ParseTree}
    (h : (Arena.ofDocument d).Holds parent k (.node info children))
    (hsize : k + (ParseTree.node info children).size ≤ (Arena.ofDocument d).size)
    (hcut : isCut (Arena.ofDocument d) k = false)
    (hroot : 0 < k ∨ wrapsRoot (Arena.ofDocument d) version = false) :
    creates (Arena.ofDocument d) version
        (Entity.ofTree d.source parent k (.node info children)) =
      makesNode (Entity.ofTree d.source parent k (.node info children))
        (plainForest d.source version k (k + 1) children) := by
  have hbelow := itemsBelow_of_holds h hsize version
  rw [Arena.source_ofDocument] at hbelow
  have hfinished : (finished (Arena.ofDocument d) version).contains k = true := by
    rw [List.contains_iff_mem, mem_finished]
    exact ⟨Arena.lt_size_of_entity? h.entity?_eq, hcut⟩
  have hnowrap : (k == 0 && wrapsRoot (Arena.ofDocument d) version) = false := by
    rcases hroot with hk | hwraps
    · have hne : (k == 0) = false := by simpa using Nat.ne_of_gt hk
      rw [hne, Bool.false_and]
    · rw [hwraps, Bool.and_false]
  rw [creates, hbelow, Entity.ofTree_index, hfinished, hnowrap, Bool.true_and, Bool.or_false]

/-- No node is made for anything below a missing node. -/
theorem filter_creates_of_isMissing {parent : Option Nat} {k : Nat} {t : ParseTree}
    (h : (Arena.ofDocument d).Holds parent k t) (hm : t.info.isMissing = true) :
    (ParseTree.entitiesList d.source k (k + 1) t.children).filter
      (creates (Arena.ofDocument d) version) = [] := by
  rw [List.filter_eq_nil_iff]
  intro e hmem hcreates
  have hopen := isCut_of_creates hcreates
  rw [isCut_of_mem_entitiesList h hm hmem] at hopen
  contradiction

mutual

/-- The entities of the origins are the creators of a tree. -/
theorem map_entity_treeOrigins {parent : Option Nat} {k : Nat} {t : ParseTree}
    (h : (Arena.ofDocument d).Holds parent k t)
    (hsize : k + t.size ≤ (Arena.ofDocument d).size)
    (hcut : isCut (Arena.ofDocument d) k = false)
    (hroot : 0 < k ∨ wrapsRoot (Arena.ofDocument d) version = false) (owner : Option Nat) :
    (treeOrigins d.source version owner parent k t).map (·.entity) =
      (t.entities d.source parent k).filter (creates (Arena.ofDocument d) version) := by
  match t with
  | .node info children =>
    obtain ⟨he, hchildren⟩ := Arena.holds_node.1 h
    have hcreates := creates_of_holds h hsize hcut hroot
    rw [ParseTree.size_node] at hsize
    rw [ParseTree.entities_node, List.filter_cons, hcreates]
    cases hm : info.isMissing with
    | true =>
      have hnone : makesNode (Entity.ofTree d.source parent k (.node info children))
          (plainForest d.source version k (k + 1) children) = false := if_pos hm
      have hcutoff : (ParseTree.entitiesList d.source k (k + 1) children).filter
          (creates (Arena.ofDocument d) version) = [] := filter_creates_of_isMissing h hm
      rw [treeOrigins_of_isMissing hm, hnone, hcutoff]
      rfl
    | false =>
      have hbelow : ∀ c, (Arena.ofDocument d).parent? c = some k →
          isCut (Arena.ofDocument d) c = false := fun c hc => isCut_of_child he hm hcut hc
      have hrest := map_entity_forestOrigins hchildren (by omega) hbelow
      cases hmakes : makesNode (Entity.ofTree d.source parent k (.node info children))
        (plainForest d.source version k (k + 1) children) with
      | true => rw [treeOrigins_of_makesNode hmakes, List.map_cons, hrest]; rfl
      | false => rw [treeOrigins_of_not_makesNode hm hmakes, hrest]; rfl

theorem map_entity_forestOrigins {parent next : Nat} {ts : List ParseTree}
    (h : (Arena.ofDocument d).HoldsList parent next ts)
    (hsize : next + ParseTree.sizes ts ≤ (Arena.ofDocument d).size)
    (hcut : ∀ c, (Arena.ofDocument d).parent? c = some parent →
      isCut (Arena.ofDocument d) c = false) (owner : Option Nat) :
    (forestOrigins d.source version owner parent next ts).map (·.entity) =
      (ParseTree.entitiesList d.source parent next ts).filter
        (creates (Arena.ofDocument d) version) := by
  match ts with
  | [] => rw [forestOrigins_nil, ParseTree.entitiesList_nil]; rfl
  | t :: ts =>
    obtain ⟨ht, hts⟩ := Arena.holdsList_cons.1 h
    rw [ParseTree.sizes_cons] at hsize
    have hpos : 0 < next := Nat.zero_lt_of_lt (Arena.parent?_lt ht.parent?_eq)
    rw [forestOrigins_cons, ParseTree.entitiesList_cons, List.map_append, List.filter_append,
      map_entity_treeOrigins ht (by omega) (hcut next ht.parent?_eq) (Or.inl hpos),
      map_entity_forestOrigins hts (by omega) hcut]

end

mutual

/-- The owners of the origins are the nearest creators around their entities. -/
theorem owner_of_mem_treeOrigins {parent : Option Nat} {k : Nat} {t : ParseTree}
    (h : (Arena.ofDocument d).Holds parent k t)
    (hsize : k + t.size ≤ (Arena.ofDocument d).size)
    (hcut : isCut (Arena.ofDocument d) k = false)
    (hroot : 0 < k ∨ wrapsRoot (Arena.ofDocument d) version = false) {o : Origin}
    (ho : o ∈ treeOrigins d.source version (owner? (Arena.ofDocument d) version k) parent k t) :
    o.owner = owner? (Arena.ofDocument d) version o.entity.index := by
  match t with
  | .node info children =>
    obtain ⟨he, hchildren⟩ := Arena.holds_node.1 h
    have hcreates := creates_of_holds h hsize hcut hroot
    rw [ParseTree.size_node] at hsize
    cases hm : info.isMissing with
    | true => simp [treeOrigins_of_isMissing hm] at ho
    | false =>
      have hbelow : ∀ c, (Arena.ofDocument d).parent? c = some k →
          isCut (Arena.ofDocument d) c = false := fun c hc => isCut_of_child he hm hcut hc
      cases hmakes : makesNode (Entity.ofTree d.source parent k (.node info children))
        (plainForest d.source version k (k + 1) children) with
      | true =>
        rw [treeOrigins_of_makesNode hmakes] at ho
        rcases List.mem_cons.1 ho with rfl | ho
        · rfl
        · refine owner_of_mem_forestOrigins hchildren (by omega) hbelow ?_ ho
          intro c hc
          rw [owner?_of_parent? hc he, Arena.source_ofDocument, hcreates, hmakes]
          rfl
      | false =>
        rw [treeOrigins_of_not_makesNode hm hmakes] at ho
        refine owner_of_mem_forestOrigins hchildren (by omega) hbelow ?_ ho
        intro c hc
        rw [owner?_of_parent? hc he, Arena.source_ofDocument, hcreates, hmakes]
        rfl

theorem owner_of_mem_forestOrigins {owner : Option Nat} {parent next : Nat}
    {ts : List ParseTree} (h : (Arena.ofDocument d).HoldsList parent next ts)
    (hsize : next + ParseTree.sizes ts ≤ (Arena.ofDocument d).size)
    (hcut : ∀ c, (Arena.ofDocument d).parent? c = some parent →
      isCut (Arena.ofDocument d) c = false)
    (howner : ∀ c, (Arena.ofDocument d).parent? c = some parent →
      owner? (Arena.ofDocument d) version c = owner) {o : Origin}
    (ho : o ∈ forestOrigins d.source version owner parent next ts) :
    o.owner = owner? (Arena.ofDocument d) version o.entity.index := by
  match ts with
  | [] => simp at ho
  | t :: ts =>
    obtain ⟨ht, hts⟩ := Arena.holdsList_cons.1 h
    rw [ParseTree.sizes_cons] at hsize
    have hpos : 0 < next := Nat.zero_lt_of_lt (Arena.parent?_lt ht.parent?_eq)
    rw [forestOrigins_cons] at ho
    rcases List.mem_append.1 ho with ho | ho
    · rw [← howner next ht.parent?_eq] at ho
      exact owner_of_mem_treeOrigins ht (by omega) (hcut next ht.parent?_eq) (Or.inl hpos) ho
    · exact owner_of_mem_forestOrigins hts (by omega) hcut howner ho

end

end OfDocument

section Root

variable {source : List UInt8} {version : Int}

/-- The trees below the root of a tree that the walk enters. -/
def entered (t : ParseTree) : List ParseTree := if t.info.isMissing then [] else t.children

/-- The origins of the nodes of the abstract tree that a parse tree becomes. -/
def rootOrigins (source : List UInt8) (version : Int) (t : ParseTree) : List Origin :=
  let items := plainItems source version none 0 t
  match singleNode? items with
  | some _ => treeOrigins source version none none 0 t
  | none =>
    ⟨Entity.ofTree source none 0 t, none, makeNode statementList t.info items⟩ ::
      forestOrigins source version (some 0) 0 1 (entered t)

theorem rootOrigins_of_single {t : ParseTree} {n : Node}
    (h : singleNode? (plainItems source version none 0 t) = some n) :
    rootOrigins source version t = treeOrigins source version none none 0 t := by
  rw [rootOrigins]
  simp only [h]

theorem rootOrigins_of_wrapped {t : ParseTree}
    (h : singleNode? (plainItems source version none 0 t) = none) :
    rootOrigins source version t =
      ⟨Entity.ofTree source none 0 t, none,
        makeNode statementList t.info (plainItems source version none 0 t)⟩ ::
        forestOrigins source version (some 0) 0 1 (entered t) := by
  rw [rootOrigins]
  simp only [h]

/-- A root that does not become a single node passes on the nodes below it. -/
theorem filterMap_node?_of_wrapped {t : ParseTree}
    (h : singleNode? (plainItems source version none 0 t) = none) :
    (plainItems source version none 0 t).filterMap Item.node? =
      (plainForest source version 0 1 (entered t)).filterMap Item.node? := by
  match t with
  | .node info children =>
    cases hm : info.isMissing with
    | true =>
      have hnone : entered (.node info children) = [] := if_pos hm
      rw [plainItems_of_isMissing hm, hnone, plainForest_nil]
    | false =>
      have hall : entered (.node info children) = children := if_neg (by simp [hm])
      cases hmakes : makesNode (Entity.ofTree source none 0 (.node info children))
        (plainForest source version 0 1 children) with
      | true =>
        rw [plainItems_of_makesNode hmakes] at h
        simp [singleNode?] at h
      | false => rw [filterMap_node?_plainItems hm hmakes, hall]

/-- The origins list the nodes of the tree in document order. -/
theorem map_node_rootOrigins (source : List UInt8) (version : Int) (t : ParseTree) :
    (rootOrigins source version t).map (·.node) =
      (rootNode t.info (plainItems source version none 0 t)).nodes := by
  rw [rootNode, Node.nodes_eq]
  cases h : singleNode? (plainItems source version none 0 t) with
  | some n =>
    rw [rootOrigins_of_single h, map_node_treeOrigins, singleNode?_eq_some_iff.1 h, Node.toItem,
      Item.nodesList_cons, Item.nodes_node, Item.nodesList_nil, List.append_nil]
    rfl
  | none =>
    rw [rootOrigins_of_wrapped h, List.map_cons, map_node_forestOrigins,
      Item.nodesList_eq_flatMap, ← filterMap_node?_of_wrapped h, ← Item.nodesList_eq_flatMap]
    rfl

theorem hasExtent_of_mem_rootOrigins {t : ParseTree} {o : Origin}
    (ho : o ∈ rootOrigins source version t) : o.node.info.HasExtent o.entity.toParseInfo := by
  cases h : singleNode? (plainItems source version none 0 t) with
  | some n =>
    rw [rootOrigins_of_single h] at ho
    exact hasExtent_of_mem_treeOrigins ho
  | none =>
    rw [rootOrigins_of_wrapped h] at ho
    rcases List.mem_cons.1 ho with rfl | ho
    · exact hasExtent_makeNode _ t.info _
    · exact hasExtent_of_mem_forestOrigins ho

/-- Where `creator` gives the entities of the origins, it turns the places of the parents into
the owners. -/
theorem map_parents_rootOrigins {t : ParseTree} {creator : Nat → Option Nat}
    (hplaced : PlacedFrom creator 0 (rootOrigins source version t)) :
    (rootNode t.info (plainItems source version none 0 t)).parents.map (·.bind creator) =
      (rootOrigins source version t).map (·.owner) := by
  rw [rootNode]
  cases h : singleNode? (plainItems source version none 0 t) with
  | some n =>
    rw [rootOrigins_of_single h] at hplaced ⊢
    have hitems := map_parents_plainItems (Option.bind_none creator) hplaced
    rw [singleNode?_eq_some_iff.1 h, Item.parentsList_cons, Item.parentsList_nil,
      List.append_nil] at hitems
    exact hitems
  | none =>
    rw [rootOrigins_of_wrapped h] at hplaced ⊢
    have hroot : (some 0).bind creator = some 0 := hplaced.head
    have hbelow := map_parents_plainForest hroot hplaced.tail
    rw [Item.parentsList_congr (filterMap_node?_of_wrapped h).symm] at hbelow
    rw [Option.getD_none, Node.parents, Node.toItem, Item.parents_node, List.map_cons,
      List.map_cons]
    exact congrArg (none :: ·) hbelow

/-- The nodes that an entity owns are the child nodes of its own node. -/
theorem ownedBy_index_rootOrigins {t : ParseTree} {o : Origin}
    (ho : o ∈ rootOrigins source version t) :
    ownedBy (some o.entity.index) (rootOrigins source version t) = o.node.childNodes := by
  cases h : singleNode? (plainItems source version none 0 t) with
  | some n =>
    rw [rootOrigins_of_single h] at ho ⊢
    exact ownedBy_index_treeOrigins (by simp) ho
  | none =>
    rw [rootOrigins_of_wrapped h] at ho ⊢
    rw [ownedBy_cons_of_ne (by simp)]
    rcases List.mem_cons.1 ho with rfl | ho
    · have hroot : ∀ i ∈ some 0, i < 1 ∨ 1 + ParseTree.sizes (entered t) ≤ i := by simp
      have hchildren := filterMap_node?_of_wrapped h
      exact (ownedBy_forestOrigins hroot).trans ((if_pos rfl).trans hchildren.symm)
    · exact ownedBy_index_forestOrigins (by simp) ho

/-- Nothing owns the tree itself, and something owns each other node. -/
theorem ownedBy_none_rootOrigins (source : List UInt8) (version : Int) (t : ParseTree) :
    ownedBy none (rootOrigins source version t) =
      [rootNode t.info (plainItems source version none 0 t)] := by
  rw [rootNode]
  cases h : singleNode? (plainItems source version none 0 t) with
  | some n =>
    rw [rootOrigins_of_single h, ownedBy_treeOrigins (by simp), if_pos rfl,
      singleNode?_eq_some_iff.1 h]
    rfl
  | none =>
    rw [rootOrigins_of_wrapped h, ownedBy_cons, if_pos rfl, ownedBy_forestOrigins (by simp),
      if_neg (by simp)]
    rfl

end Root

section OfDocument

variable (d : Document) (version : Int)

theorem creates_root (h : wrapsRoot (Arena.ofDocument d) version = true) :
    creates (Arena.ofDocument d) version (Entity.ofTree d.source none 0 d.tree) = true := by
  rw [creates, h, Entity.ofTree_index]
  simp

/-- The entities of the origins are the creators. -/
theorem map_entity_rootOrigins :
    (rootOrigins d.source version d.tree).map (·.entity) =
      creators (Arena.ofDocument d) version := by
  have hholds := Arena.holds_ofDocument d
  have hwraps := wrapsRoot_ofDocument d version
  rw [creators, Arena.entities_ofDocument]
  cases h : singleNode? (plainItems d.source version none 0 d.tree) with
  | some n =>
    rw [h] at hwraps
    rw [rootOrigins_of_single h, map_entity_treeOrigins hholds (by simp) (isCut_zero d)
      (Or.inr hwraps)]
  | none =>
    rw [h] at hwraps
    rw [rootOrigins_of_wrapped h, List.map_cons, ParseTree.entities_eq_cons, List.filter_cons,
      if_pos (creates_root d version hwraps), entered]
    cases hm : d.tree.info.isMissing with
    | true =>
      rw [if_pos rfl, forestOrigins_nil, filter_creates_of_isMissing hholds hm]
      rfl
    | false =>
      have hopen : ∀ c, (Arena.ofDocument d).parent? c = some 0 →
          isCut (Arena.ofDocument d) c = false :=
        fun c hc => isCut_of_child hholds.entity?_eq hm (isCut_zero d) hc
      have hsize : 1 + ParseTree.sizes d.tree.children ≤ (Arena.ofDocument d).size := by
        rw [Arena.size_ofDocument, ParseTree.size_eq]
        omega
      rw [if_neg (by simp), map_entity_forestOrigins hholds.children hsize hopen]

/-- The owners of the origins are the nearest creators around their entities. -/
theorem owner_of_mem_rootOrigins {o : Origin} (ho : o ∈ rootOrigins d.source version d.tree) :
    o.owner = owner? (Arena.ofDocument d) version o.entity.index := by
  have hholds := Arena.holds_ofDocument d
  have hwraps := wrapsRoot_ofDocument d version
  have hzero : owner? (Arena.ofDocument d) version 0 = none := by
    rw [owner?, Arena.ancestors_zero]
    rfl
  cases h : singleNode? (plainItems d.source version none 0 d.tree) with
  | some n =>
    rw [h] at hwraps
    rw [rootOrigins_of_single h] at ho
    exact owner_of_mem_treeOrigins hholds (by simp) (isCut_zero d) (Or.inr hwraps)
      (hzero.symm ▸ ho)
  | none =>
    rw [h] at hwraps
    rw [rootOrigins_of_wrapped h, entered] at ho
    rcases List.mem_cons.1 ho with rfl | ho
    · exact hzero.symm
    cases hm : d.tree.info.isMissing with
    | true => simp [hm] at ho
    | false =>
      rw [hm, if_neg (by simp)] at ho
      have hsize : 1 + ParseTree.sizes d.tree.children ≤ (Arena.ofDocument d).size := by
        rw [Arena.size_ofDocument, ParseTree.size_eq]
        omega
      refine owner_of_mem_forestOrigins hholds.children hsize
        (fun c hc => isCut_of_child hholds.entity?_eq hm (isCut_zero d) hc) ?_ ho
      intro c hc
      rw [owner?_of_parent? hc hholds.entity?_eq, Arena.source_ofDocument,
        if_pos (creates_root d version hwraps)]

theorem map_owner_rootOrigins :
    (rootOrigins d.source version d.tree).map (·.owner) =
      (creators (Arena.ofDocument d) version).map
        fun e => owner? (Arena.ofDocument d) version e.index := by
  rw [← map_entity_rootOrigins, List.map_map]
  exact List.map_congr_left fun o ho => owner_of_mem_rootOrigins d version ho

theorem placedFrom_rootOrigins :
    PlacedFrom (creatorAt? (Arena.ofDocument d) version) 0
      (rootOrigins d.source version d.tree) := by
  intro j o ho
  rw [Nat.zero_add, creatorAt?, ← map_entity_rootOrigins, List.getElem?_map, ho]
  rfl

/-- The creators with their nodes. -/
theorem zip_creators :
    (creators (Arena.ofDocument d) version).zip (plainBuild d version).tree.nodes =
      (rootOrigins d.source version d.tree).map fun o => (o.entity, o.node) := by
  rw [← map_entity_rootOrigins, plainBuild, ← map_node_rootOrigins, List.zip_map']

/-- The nodes of the creators with a given owner. -/
theorem map_snd_filter_owner? (y : Option Nat) :
    (((creators (Arena.ofDocument d) version).zip (plainBuild d version).tree.nodes).filter
        fun x => owner? (Arena.ofDocument d) version x.1.index = y).map Prod.snd =
      ownedBy y (rootOrigins d.source version d.tree) := by
  have howner : ∀ o ∈ rootOrigins d.source version d.tree,
      (decide (owner? (Arena.ofDocument d) version o.entity.index = y)) =
        decide (o.owner = y) := by
    intro o ho
    rw [owner_of_mem_rootOrigins d version ho]
  rw [zip_creators, List.filter_map, List.map_map, ownedBy, ← List.filter_congr howner]
  rfl

end OfDocument

/-- What it means that the nodes of a tree are those of the creators of an arena. -/
structure Correspond (a : Arena) (version : Int) (tree : Node) : Prop where
  /-- Each creator has one node, and each node has one creator. -/
  length_eq : (creators a version).length = tree.nodes.length
  increasing : ((creators a version).map (·.index)).Pairwise (· < ·)
  /-- A node has the extent of its creator. -/
  hasExtent : ∀ x ∈ (creators a version).zip tree.nodes,
    x.2.info.HasExtent x.1.toParseInfo
  /-- The parent of a node is made for the nearest creator around its own. -/
  parents_eq : tree.parents.map (·.bind (creatorAt? a version)) =
    (creators a version).map fun e => owner? a version e.index
  /-- The child nodes of a node are those that have it as their parent, in order. -/
  childNodes_eq : ∀ x ∈ (creators a version).zip tree.nodes,
    x.2.childNodes = (((creators a version).zip tree.nodes).filter
      fun y => owner? a version y.1.index = some x.1.index).map Prod.snd
  /-- Only the node of the whole tree has no parent. -/
  root_eq : (((creators a version).zip tree.nodes).filter
    fun y => owner? a version y.1.index = none).map Prod.snd = [tree]
  /-- Nothing is created below a missing entity. -/
  isCut_eq : ∀ e ∈ creators a version, isCut a e.index = false

/-- No node is lost, doubled, moved or hung under another: the nodes of the tree that a document
becomes are in document order those of its creators. -/
theorem nodes_correspond (d : Document) (version : Int) :
    ∃ b, build? (Arena.ofDocument d) version keep () = some b ∧
      Correspond (Arena.ofDocument d) version b.tree := by
  refine ⟨plainBuild d version, build?_keep d version, ?_⟩
  constructor
  case length_eq =>
    have hentities := congrArg List.length (map_entity_rootOrigins d version)
    have hnodes := congrArg List.length (map_node_rootOrigins d.source version d.tree)
    rw [List.length_map] at hentities hnodes
    exact hentities.symm.trans hnodes
  case increasing => exact List.pairwise_map.2 ((Arena.pairwise_index d).filter _)
  case hasExtent =>
    intro x hx
    rw [zip_creators] at hx
    obtain ⟨o, ho, rfl⟩ := List.mem_map.1 hx
    exact hasExtent_of_mem_rootOrigins ho
  case parents_eq =>
    rw [← map_owner_rootOrigins]
    exact map_parents_rootOrigins (placedFrom_rootOrigins d version)
  case childNodes_eq =>
    intro x hx
    rw [map_snd_filter_owner?]
    rw [zip_creators] at hx
    obtain ⟨o, ho, rfl⟩ := List.mem_map.1 hx
    exact (ownedBy_index_rootOrigins ho).symm
  case root_eq =>
    rw [map_snd_filter_owner?]
    exact ownedBy_none_rootOrigins d.source version d.tree
  case isCut_eq =>
    intro e he
    exact isCut_of_creates (List.mem_filter.1 he).2

-- The statement list, the property access and the variable; the statement is transparent and
-- the names are scalars.
example : (creators (Arena.ofDocument propertyStatement) 80).map (·.index) = [0, 2, 3] := by
  decide

end SyntaxCursor.Conversion
