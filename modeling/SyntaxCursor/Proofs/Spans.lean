import Mathlib.Data.List.Chain
import SyntaxCursor.Proofs.Creators

/-!
# How the spans of nodes lie to each other

Where each entity lies inside the one that it hangs under and siblings stand one after another,
the nodes of the abstract tree do so as well. Child nodes of one node can come from different
depths of the parse, since some entities pass on what is below them, and a list of statements may
have been made around all of them. So the induction is about lists of nodes that keep to a range
of the source (`Keeps`), and not about one node and the next.
-/
namespace SyntaxCursor.Concrete

/-- Each entity lies inside the one that it hangs under, and siblings stand one after another. -/
structure Arena.SpansOrdered (a : Arena) : Prop where
  start_le_stop : ∀ e ∈ a.entities.toList, e.start ≤ e.stop
  inside : ∀ e ∈ a.entities.toList, ∀ p ∈ e.parent, ∀ q ∈ a.entity? p,
    q.start ≤ e.start ∧ e.stop ≤ q.stop
  /-- An entity ends no later than the next one under the same entity starts. -/
  stop_le_start : ∀ e ∈ a.entities.toList,
    (e.children.filterMap a.entity?).IsChain fun l r => l.stop ≤ r.start

namespace ParseTree

mutual

/-- At each node of a tree the trees below it stand one after another inside its span. -/
def Ordered : ParseTree → Prop
  | .node info children => OrderedFrom info.start info.stop children

/-- Trees with such nodes stand one after another from `lo` on and up to `hi`. -/
def OrderedFrom (lo hi : Nat) : List ParseTree → Prop
  | [] => lo ≤ hi
  | t :: ts => lo ≤ t.info.start ∧ t.Ordered ∧ OrderedFrom t.info.stop hi ts

end

@[simp] theorem ordered_node (info : ParseInfo) (children : List ParseTree) :
    (ParseTree.node info children).Ordered ↔ OrderedFrom info.start info.stop children := by
  rw [Ordered]

@[simp] theorem orderedFrom_nil (lo hi : Nat) : OrderedFrom lo hi [] ↔ lo ≤ hi := by
  rw [OrderedFrom]

@[simp] theorem orderedFrom_cons (lo hi : Nat) (t : ParseTree) (ts : List ParseTree) :
    OrderedFrom lo hi (t :: ts) ↔
      lo ≤ t.info.start ∧ t.Ordered ∧ OrderedFrom t.info.stop hi ts := by
  rw [OrderedFrom]

mutual

theorem Ordered.start_le_stop {t : ParseTree} (h : t.Ordered) : t.info.start ≤ t.info.stop := by
  match t with
  | .node info children => exact OrderedFrom.le (ordered_node _ _ |>.1 h)

theorem OrderedFrom.le {lo hi : Nat} {ts : List ParseTree} (h : OrderedFrom lo hi ts) :
    lo ≤ hi := by
  match ts with
  | [] => simpa using h
  | t :: ts =>
    obtain ⟨hlo, ht, hts⟩ := (orderedFrom_cons _ _ _ _).1 h
    exact hlo.trans (ht.start_le_stop.trans hts.le)

end

end ParseTree

namespace Arena

section Holds

variable {a : Arena} (hspans : a.SpansOrdered)

include hspans

mutual

/-- The trees that an arena with ordered spans holds are ordered. -/
theorem Holds.ordered {parent : Option Nat} {k : Nat} {t : ParseTree}
    (h : a.Holds parent k t) : t.Ordered := by
  match t with
  | .node info children =>
    obtain ⟨he, hchildren⟩ := holds_node.1 h
    have hmem := mem_entities_of_entity? he
    rw [ParseTree.ordered_node]
    refine hchildren.orderedFrom he (hspans.start_le_stop _ hmem) ?_
      (hspans.stop_le_start _ hmem)
    cases children with
    | nil => simp
    | cons t ts =>
      obtain ⟨ht, _⟩ := holdsList_cons.1 hchildren
      have hinside := hspans.inside _ (mem_entities_of_entity? ht.entity?_eq) k rfl _ he
      simpa using hinside.1

theorem HoldsList.orderedFrom {parent next : Nat}
    {ts : List ParseTree} (h : a.HoldsList parent next ts) {e : Entity}
    (he : a.entity? parent = some e) {lo : Nat} (hlo : lo ≤ e.stop)
    (hfirst : ∀ t ∈ ts.head?, lo ≤ t.info.start)
    (hchain : ((ParseTree.positions next ts).filterMap a.entity?).IsChain
      fun l r => l.stop ≤ r.start) :
    ParseTree.OrderedFrom lo e.stop ts := by
  match ts with
  | [] => simpa using hlo
  | t :: ts =>
    obtain ⟨ht, hts⟩ := holdsList_cons.1 h
    have hinside := hspans.inside _ (mem_entities_of_entity? ht.entity?_eq) parent rfl e he
    rw [ParseTree.positions, List.filterMap_cons_some ht.entity?_eq, List.isChain_cons] at hchain
    rw [ParseTree.orderedFrom_cons]
    refine ⟨hfirst t rfl, ht.ordered, hts.orderedFrom he hinside.2 ?_ hchain.2⟩
    cases ts with
    | nil => simp
    | cons u us =>
      obtain ⟨hu, _⟩ := holdsList_cons.1 hts
      have hnext := hchain.1
      rw [ParseTree.positions, List.filterMap_cons_some hu.entity?_eq] at hnext
      simpa using hnext

end

end Holds

end Arena

end SyntaxCursor.Concrete

namespace SyntaxCursor.Abstract

/-- Nodes stand one after another from `lo` on and up to `hi`. -/
structure Keeps (lo hi : Int) (ns : List Node) : Prop where
  inside : ∀ n ∈ ns, lo ≤ n.info.start ∧ n.info.stop ≤ hi
  /-- An earlier node ends no later than a later one starts. -/
  ordered : ns.Pairwise fun m n => m.info.stop ≤ n.info.start

/-- The child nodes of a node stand one after another inside its span. -/
def Node.KeepsChildren (n : Node) : Prop := Keeps n.info.start n.info.stop n.childNodes

namespace Keeps

variable {lo hi : Int}

theorem nil : Keeps lo hi [] where
  inside := by simp
  ordered := .nil

theorem singleton {n : Node} (hlo : lo ≤ n.info.start) (hhi : n.info.stop ≤ hi) :
    Keeps lo hi [n] where
  inside := by simpa using ⟨hlo, hhi⟩
  ordered := List.pairwise_singleton _ n

/-- Nodes up to the middle of a range and nodes from there on stand one after another. -/
theorem append {lo' mid : Int} {ms ns : List Node} (hm : Keeps lo' mid ms)
    (hn : Keeps mid hi ns) (hlo : lo ≤ lo') (hmid : lo ≤ mid) (hhi : mid ≤ hi) :
    Keeps lo hi (ms ++ ns) where
  inside := by
    intro n hmem
    rcases List.mem_append.1 hmem with hmem | hmem
    · have hn := hm.inside n hmem
      omega
    · have hn := hn.inside n hmem
      omega
  ordered := by
    rw [List.pairwise_append]
    refine ⟨hm.ordered, hn.ordered, ?_⟩
    intro m hmem n hnmem
    exact (hm.inside m hmem).2.trans (hn.inside n hnmem).1

end Keeps

end SyntaxCursor.Abstract

namespace SyntaxCursor.Conversion

open Abstract Concrete

section Recursive

variable {source : List UInt8} {version : Int}

mutual

/-- The nodes that an ordered tree becomes keep to its span, whatever depth they come from. -/
theorem keeps_plainItems {parent : Option Nat} {k : Nat} {t : ParseTree} (h : t.Ordered) :
    Keeps t.info.start t.info.stop
      ((plainItems source version parent k t).filterMap Item.node?) := by
  match t with
  | .node info children =>
    rw [ParseTree.ordered_node] at h
    cases hm : info.isMissing with
    | true =>
      rw [plainItems_of_isMissing hm]
      exact .nil
    | false =>
      cases hmakes : makesNode (Entity.ofTree source parent k (.node info children))
        (plainForest source version k (k + 1) children) with
      | true =>
        rw [plainItems_of_makesNode hmakes]
        exact .singleton (Int.le_refl _) (Int.le_refl _)
      | false =>
        rw [filterMap_node?_plainItems hm hmakes]
        exact keeps_plainForest h

theorem keeps_plainForest {parent next : Nat} {ts : List ParseTree} {lo hi : Nat}
    (h : ParseTree.OrderedFrom lo hi ts) :
    Keeps lo hi ((plainForest source version parent next ts).filterMap Item.node?) := by
  match ts with
  | [] =>
    rw [plainForest_nil]
    exact .nil
  | t :: ts =>
    obtain ⟨hlo, ht, hts⟩ := (ParseTree.orderedFrom_cons _ _ _ _).1 h
    have hstop := ht.start_le_stop
    have hhi := hts.le
    rw [plainForest_cons, List.filterMap_append]
    exact (keeps_plainItems ht).append (keeps_plainForest hts) (by omega) (by omega) (by omega)

end

mutual

/-- So do the child nodes of each node below. -/
theorem keepsChildren_plainItems {parent : Option Nat} {k : Nat} {t : ParseTree}
    (h : t.Ordered) {n : Node} (hn : n ∈ Item.nodesList (plainItems source version parent k t)) :
    n.KeepsChildren := by
  match t with
  | .node info children =>
    rw [ParseTree.ordered_node] at h
    cases hm : info.isMissing with
    | true => simp [plainItems_of_isMissing hm] at hn
    | false =>
      cases hmakes : makesNode (Entity.ofTree source parent k (.node info children))
        (plainForest source version k (k + 1) children) with
      | true =>
        rw [plainItems_of_makesNode hmakes, Item.nodesList_cons, Item.nodesList_nil,
          List.append_nil, Node.toItem, Item.nodes_node] at hn
        rcases List.mem_cons.1 hn with rfl | hn
        · exact keeps_plainForest h
        · exact keepsChildren_plainForest h hn
      | false =>
        rw [Item.nodesList_eq_flatMap, filterMap_node?_plainItems hm hmakes,
          ← Item.nodesList_eq_flatMap] at hn
        exact keepsChildren_plainForest h hn

theorem keepsChildren_plainForest {parent next : Nat} {ts : List ParseTree} {lo hi : Nat}
    (h : ParseTree.OrderedFrom lo hi ts) {n : Node}
    (hn : n ∈ Item.nodesList (plainForest source version parent next ts)) :
    n.KeepsChildren := by
  match ts with
  | [] => simp at hn
  | t :: ts =>
    obtain ⟨_, ht, hts⟩ := (ParseTree.orderedFrom_cons _ _ _ _).1 h
    rw [plainForest_cons, Item.nodesList_append] at hn
    rcases List.mem_append.1 hn with hn | hn
    · exact keepsChildren_plainItems ht hn
    · exact keepsChildren_plainForest hts hn

end

end Recursive

section Root

variable {d : Document} (version : Int)

/-- A list of statements around the items of the root has the span of the root, too. -/
theorem keepsChildren_plainBuild (h : d.tree.Ordered) {n : Node}
    (hn : n ∈ (plainBuild d version).tree.nodes) : n.KeepsChildren := by
  rw [plainBuild, rootNode, Node.nodes_eq] at hn
  cases hsingle : singleNode? (plainItems d.source version none 0 d.tree) with
  | some m =>
    rw [hsingle, Option.getD_some] at hn
    have hmem : n ∈ Item.nodesList (plainItems d.source version none 0 d.tree) := by
      rw [singleNode?_eq_some_iff.1 hsingle]
      simpa [Node.toItem] using hn
    exact keepsChildren_plainItems h hmem
  | none =>
    rw [hsingle, Option.getD_none] at hn
    rcases List.mem_cons.1 hn with rfl | hn
    · exact keeps_plainItems h
    · exact keepsChildren_plainItems h hn

/-- The lines of the nodes are those of the creators. -/
theorem lines_plainBuild (d : Document) :
    (plainBuild d version).tree.nodes.map (·.info.line) =
      (creators (Arena.ofDocument d) version).map fun e => (e.row : Int) + 1 := by
  rw [plainBuild, ← map_node_rootOrigins, ← map_entity_rootOrigins, List.map_map, List.map_map]
  exact List.map_congr_left fun o ho => (hasExtent_of_mem_rootOrigins ho).line_eq

end Root

/-- In a document in which the entities lie inside each other and siblings stand one after
another, the child nodes of a node of the tree lie inside its span, and stand one after another.
If the rows do not decrease in pre-order, the lines of the nodes do not decrease in document
order. -/
theorem build?_spans_ordered (d : Document) (version : Int)
    (hspans : (Arena.ofDocument d).SpansOrdered) :
    ∃ b, build? (Arena.ofDocument d) version keep () = some b ∧
      (∀ n ∈ b.tree.nodes,
        (∀ m ∈ n.childNodes, n.info.start ≤ m.info.start ∧ m.info.stop ≤ n.info.stop) ∧
          n.childNodes.Pairwise fun l r => l.info.stop ≤ r.info.start) ∧
      ((Arena.ofDocument d).entities.toList.Pairwise (fun e f => e.row ≤ f.row) →
        (b.tree.nodes.map (·.info.line)).Pairwise (· ≤ ·)) := by
  refine ⟨_, build?_keep d version, ?_, ?_⟩
  · intro n hn
    have hkeeps := keepsChildren_plainBuild version
      ((Arena.holds_ofDocument d).ordered hspans) hn
    exact ⟨hkeeps.inside, hkeeps.ordered⟩
  · intro hrows
    rw [lines_plainBuild, List.pairwise_map, creators]
    refine (hrows.imp ?_).filter _
    intro e f hle
    omega

theorem spansOrdered_propertyStatement :
    (Arena.ofDocument propertyStatement).SpansOrdered where
  start_le_stop := by decide
  inside := by decide
  stop_le_start := by decide

/-- The access lies inside the list of statements, and the variable inside the access. -/
theorem build?_spans_ordered_propertyStatement :
    (Arena.ofDocument propertyStatement).SpansOrdered ∧
      ∃ b, build? (Arena.ofDocument propertyStatement) 80 keep () = some b ∧
        (∀ n ∈ b.tree.nodes, ∀ m ∈ n.childNodes,
          n.info.start ≤ m.info.start ∧ m.info.stop ≤ n.info.stop) ∧
        (b.tree.nodes.map (·.info.line)).Pairwise (· ≤ ·) ∧
        b.tree.nodes.map (fun n => (n.info.start, n.info.stop)) = [(0, 6), (0, 5), (0, 2)] := by
  have hspans := spansOrdered_propertyStatement
  have hrows : (Arena.ofDocument propertyStatement).entities.toList.Pairwise
      (fun e f => e.row ≤ f.row) := by decide
  obtain ⟨b, hb, hnodes, hlines⟩ := build?_spans_ordered propertyStatement 80 hspans
  refine ⟨hspans, b, hb, fun n hn => (hnodes n hn).1, hlines hrows, ?_⟩
  rw [build?_keep, Option.some_inj] at hb
  subst hb
  decide +kernel

end SyntaxCursor.Conversion
