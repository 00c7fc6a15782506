import SyntaxCursor.Navigation.Navigator
import SyntaxCursor.Proofs.Bearer
import SyntaxCursor.Proofs.Parents
import SyntaxCursor.Proofs.Visits

/-!
# Analyzers disturb nothing

What a navigator with analyzers replies is the result of the conversion with the edits of the
visits that its analyzers made (`parseSource_eq`, `reaches_analyze`). Edits leave every node at its
place, and change nothing else that a node carries but its kind. So a navigator with analyzers
finds the same node at the same location as one without (`parseSource_analyzed`).
-/
namespace SyntaxCursor.Navigation

open Abstract Concrete Conversion

variable {π ρ : Type}

def Navigator.unanalyzed (nav : Navigator π) : Navigator π := { nav with analyzers := [] }

/-- What is told of a node but for its kind, and where it is, does not depend on its kind. -/
theorem map_unname_mapM_withLocation {m n : Option Node}
    (h : m.map (·.info.unname) = n.map (·.info.unname)) (p : Path) (d : Document) :
    (m.mapM (Navigator.withLocation (ρ := ρ) p d)).map
        (·.map fun (node, location) => (node.info.unname, location)) =
      (n.mapM (Navigator.withLocation p d)).map
        (·.map fun (node, location) => (node.info.unname, location)) := by
  cases m with
  | none =>
    rw [Option.map_none, eq_comm, Option.map_eq_none_iff] at h
    rw [h]
  | some m =>
    obtain ⟨n, rfl, hn⟩ := Option.map_eq_some_iff.1 h.symm
    have hstart : n.info.unname.start = m.info.unname.start := congrArg NodeInfo.start hn
    have hstop : n.info.unname.stop = m.info.unname.stop := congrArg NodeInfo.stop hn
    change n.info.start = m.info.start at hstart
    change n.info.stop = m.info.stop at hstop
    unfold Navigator.withLocation
    simp only [Option.mapM_some, hstart, hstop]
    cases p.toUri? with
    | none => rfl
    | some uri =>
      change Except.ok (some (m.info.unname, _)) = Except.ok (some (n.info.unname, _))
      rw [hn]

/-- Where a node is does not depend on its kind. -/
theorem map_snd_mapM_withLocation {m n : Option Node}
    (h : m.map (·.info.unname) = n.map (·.info.unname)) (p : Path) (d : Document) :
    (m.mapM (Navigator.withLocation (ρ := ρ) p d)).map (·.map Prod.snd) =
      (n.mapM (Navigator.withLocation p d)).map (·.map Prod.snd) := by
  have hsnd : ∀ found : Except (NavigatorError ρ) (Option (Node × Location)),
      found.map (·.map Prod.snd) =
        (found.map (·.map fun (node, location) => (node.info.unname, location))).map
          (·.map Prod.snd) := by
    intro found
    rcases found with e | _ | _ <;> rfl
  rw [hsnd, map_unname_mapM_withLocation h, ← hsnd]

/-- Edits to the tree of a result change nothing about its selected node but its kind. -/
theorem unname_selectedNode_edited (plain : Result) (edits : Nat → List Edit) :
    ({ plain with tree := editTree edits plain.tree } : Result).selectedNode.map
        (·.info.unname) = plain.selectedNode.map (·.info.unname) := by
  unfold Result.selectedNode
  cases plain.selected with
  | none => rfl
  | some place => exact unname_getElem?_editTree edits plain.tree place

variable [SelectionPolicy π]

section Navigate

variable (nav : Navigator π) (d : Document) (offset : Int) (path : String) (before : List Call)
  {version : Int} (hv : nav.version.supported? = some version)

include hv

/-- What a navigator replies is the result of the conversion, with the tree that its analyzers
leave. -/
theorem parseSource_eq :
    let plain := resultAt nav.policy version (clampOffset offset d.source.length) d
    let analysis := analyze nav.analyzers path before plain.tree
    (nav.parseSource d offset path before : Reply Result ρ) =
      { answer := match analysis.failure with
          | some reason => .error (.analyzer reason)
          | none => .ok { plain with tree := analysis.tree }
        calls := analysis.calls
        incidents := ((Conversion.convert nav.policy { document := d, version := nav.version, offset
          }).notices.map (·.incident)).filter fun i => nav.tracing || !i.isTrace } := by
  intro plain analysis
  have hanswer : (Conversion.convert nav.policy { document := d, version := nav.version, offset
      }).answer = .ok plain := Converter.answer_convert _ hv rfl
  unfold Navigator.parseSource
  dsimp only
  rw [hanswer]
  dsimp only
  change (match analysis.failure with | some reason => _ | none => _ : Reply Result ρ) = _
  cases analysis.failure <;> rfl

/-- Without its analyzers a navigator replies with the plain result of the conversion. -/
theorem parseSource_unanalyzed :
    (nav.unanalyzed.parseSource d offset path before : Reply Result ρ) =
      { answer := .ok (resultAt nav.policy version (clampOffset offset d.source.length) d)
        incidents := (nav.parseSource d offset path before : Reply Result ρ).incidents } := by
  rw [parseSource_eq nav.unanalyzed d offset path before hv,
    parseSource_eq nav d offset path before hv]
  rfl

end Navigate

/-- A navigator with analyzers finds what it finds without them. The class nodes of the converted
tree are visited in document order, each by all analyzers in their order, and whoever sees a node
sees the edits made to it before. The visits stop with the first analyzer that gives up, which
then is the answer. If none does, the answer is the result without analyzers, its tree changed by
just these edits: the selected node is at the same place and is the same but for its kind, and it
has the same location in the file. -/
theorem parseSource_analyzed (nav : Navigator π) (d : Document) (offset : Int) (path : String)
    (before : List Call) {version : Int} (hv : nav.version.supported? = some version) :
    let reply : Reply Result ρ := nav.parseSource d offset path before
    let alone : Reply Result ρ := nav.unanalyzed.parseSource d offset path before
    ∃ plain vs failure, alone.answer = .ok plain ∧ alone.incidents = reply.incidents ∧
      Made path before plain.tree (visitsDue nav.analyzers (classNodes plain.tree)) vs failure ∧
      reply.calls = vs.map (·.call) ∧
      match failure with
      | some reason => reply.answer = .error (.analyzer reason)
      | none =>
        let result := { plain with tree := editTree (editsAt vs) plain.tree }
        reply.answer = .ok result ∧
          result.tree.firstSelected? = result.selected ∧
          result.selectedNode.map (·.info.unname) = plain.selectedNode.map (·.info.unname) ∧
          ∀ p, (result.selectedNode.mapM (Navigator.withLocation (ρ := ρ) p d)).map
              (·.map Prod.snd) =
            (plain.selectedNode.mapM (Navigator.withLocation p d)).map (·.map Prod.snd) := by
  intro reply alone
  have hreply : reply = _ := parseSource_eq nav d offset path before hv
  have halone : alone = _ := parseSource_unanalyzed nav d offset path before hv
  generalize hplain : resultAt nav.policy version (clampOffset offset d.source.length) d = plain
    at hreply halone
  obtain ⟨vs, hvs⟩ := reaches_analyze nav.analyzers path before plain.tree
  refine ⟨plain, vs, _, congrArg Reply.answer halone, by rw [halone], hvs.made,
    (congrArg Reply.calls hreply).trans hvs.calls_eq, ?_⟩
  have hanswer := congrArg Reply.answer hreply
  cases hfailure : (analyze nav.analyzers path before plain.tree).failure with
  | some reason =>
    rw [hfailure] at hanswer
    exact hanswer
  | none =>
    rw [hfailure] at hanswer
    refine ⟨?_, ?_, unname_selectedNode_edited plain _, ?_⟩
    · rw [hanswer, hvs.tree_eq]
    · rw [firstSelected?_editTree, ← hplain, tree_resultAt, selected_resultAt]
    · intro p
      exact map_snd_mapM_withLocation (unname_selectedNode_edited plain _) p d

/-- The parse of `class A{class B{}}`. -/
def nestedClasses : Document :=
  let token (kind : String) (start stop : Nat) (isNamed : Bool) : ParseTree :=
    .node ⟨kind, start, stop, 0, start, isNamed, false⟩ []
  let inner (kind : String) (start stop : Nat) (children : List ParseTree) : ParseTree :=
    .node ⟨kind, start, stop, 0, start, true, false⟩ children
  let body (start stop : Nat) (members : List ParseTree) : ParseTree :=
    inner "declaration_list" start stop
      (token "\x7b" start (start + 1) false :: members ++ [token "\x7d" (stop - 1) stop false])
  let declaration (start stop : Nat) (members : List ParseTree) : ParseTree :=
    inner "class_declaration" start stop
      [token "class" start (start + 5) false, token "name" (start + 6) (start + 7) true,
        body (start + 7) stop members]
  { source :=
      [99, 108, 97, 115, 115, 32, 65, 123, 99, 108, 97, 115, 115, 32, 66, 123, 125, 125]
    tree := inner "program" 0 18 [declaration 0 18 [declaration 8 17 []]]
    hasError := false }

/-- An analyzer that renames every class and marks it. -/
def tagger : Analyzer := { name := "tagger", append := some .null, kind := some "SEEN" }

/-- An analyzer that counts the calls made before, and gives up if there are too many. -/
def guardian (limit : Nat) : Analyzer :=
  { name := "guardian"
    react := fun before call =>
      { append := some (.int before.length)
        failure := if limit < before.length then some call.node.kind else none } }

def guardedNavigator (limit : Nat) : Navigator :=
  { version := .number 80, policy := .standard, tracing := false,
    analyzers := [tagger, guardian limit] }

/-- What it replies to a cursor in the inner of two nested classes. -/
def guardedReply (limit : Nat) : Reply Result :=
  (guardedNavigator limit).parseSource nestedClasses 14 "/w/a.php"

/-- Each class is renamed, and then seen under its new kind and with what was appended. If no
analyzer gives up, both have seen both classes, the inner one stays selected, and the tree has what
they appended. If the second one gives up at its second class, this is the answer. -/
theorem parseSource_nestedClasses :
    let due (tree : Node) (limit : Nat) := visitsDue [tagger, guardian limit] (classNodes tree)
    let seen (c : Call) := (c.analyzer, c.node.kind, c.children.filterMap Item.scalar?)
    let calls : List (String × String × List Scalar) :=
      [("tagger", "AST_CLASS", [.text "A"]), ("guardian", "SEEN", [.text "A", .null]),
        ("tagger", "AST_CLASS", [.text "B"]), ("guardian", "SEEN", [.text "B", .null])]
    (VersionRequest.number 80).supported? = some 80 ∧
      (guardedReply 3).calls.map seen = calls ∧
      (∃ (plain : Result) (vs : List Visit),
        Made "/w/a.php" [] plain.tree (due plain.tree 3) vs none ∧
          (guardedReply 3).answer = .ok { plain with tree := editTree (editsAt vs) plain.tree } ∧
          plain.selected = some 3 ∧
          (editTree (editsAt vs) plain.tree).nodes.map (fun n => (n.info.kind, n.scalars)) =
            [("AST_STMT_LIST", []), ("SEEN", [.text "A", .null, .int 1]), ("AST_STMT_LIST", []),
              ("SEEN", [.text "B", .null, .int 3]), ("AST_STMT_LIST", [])]) ∧
      (guardedReply 2).calls.map seen = calls ∧
      ∃ (plain : Result) (vs : List Visit),
        Made "/w/a.php" [] plain.tree (due plain.tree 2) vs (some "SEEN") ∧
          (guardedReply 2).answer = .error (.analyzer "SEEN") := by
  intro due seen calls
  have hv : (VersionRequest.number 80).supported? = some 80 := rfl
  refine ⟨hv, by decide +kernel, ?_, by decide +kernel, ?_⟩
  · have hcomputed : ((guardedReply 3).answer.toOption.map fun result => (result.selected,
        result.tree.nodes.map fun n => (n.info.kind, n.scalars))) =
        some (some 3, [("AST_STMT_LIST", []), ("SEEN", [.text "A", .null, .int 1]),
          ("AST_STMT_LIST", []), ("SEEN", [.text "B", .null, .int 3]),
          ("AST_STMT_LIST", [])]) := by
      decide +kernel
    obtain ⟨plain, vs, failure, -, -, hmade, -, hanswer⟩ :=
      parseSource_analyzed (guardedNavigator 3) nestedClasses 14 "/w/a.php" [] hv
    cases failure with
    | some reason =>
      rw [guardedReply, hanswer] at hcomputed
      cases hcomputed
    | none =>
      obtain ⟨hanswer, -⟩ := hanswer
      rw [guardedReply, hanswer] at hcomputed
      obtain ⟨hselected, hnodes⟩ := Prod.mk.inj (Option.some.inj hcomputed)
      exact ⟨plain, vs, hmade, hanswer, hselected, hnodes⟩
  · have hcomputed : (match (guardedReply 2).answer with | .error e => some e | .ok _ => none) =
        some (.analyzer "SEEN") := by
      decide +kernel
    obtain ⟨plain, vs, failure, -, -, hmade, -, hanswer⟩ :=
      parseSource_analyzed (guardedNavigator 2) nestedClasses 14 "/w/a.php" [] hv
    cases failure with
    | none =>
      obtain ⟨hanswer, -⟩ := hanswer
      rw [guardedReply, hanswer] at hcomputed
      cases hcomputed
    | some reason =>
      rw [guardedReply, hanswer] at hcomputed
      obtain rfl := NavigatorError.analyzer.inj (Option.some.inj hcomputed)
      exact ⟨plain, vs, hmade, hanswer⟩

end SyntaxCursor.Navigation
