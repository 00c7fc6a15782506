import SyntaxCursor.Conversion.Converter
import SyntaxCursor.Proofs.Locating
import SyntaxCursor.Proofs.TreeWalk

/-!
# What a request is answered with

A request for a supported version whose document can be parsed always has a result. It is put
together from the located entity and from the recursion of `treeItems` with the marking hook,
so that later proofs need not open the converter again (`convert_of_parsed`). A tracer is told of
what is noted, and has no part in the outcome (`convertTracing_eq`).
-/
namespace SyntaxCursor.Conversion

open Abstract Concrete

theorem resolve?_natCast {a : Arena} {i : Nat} (h : i < a.size) :
    a.resolve? (i : Int) = some i := by
  rw [Arena.resolve?, if_pos (by omega), if_pos (by omega)]
  rfl

section Policy

variable {π : Type} [SelectionPolicy π]

/-- The selection that a request makes: the located entity and what encloses it. -/
def selectionAt (a : Arena) (policy : π) (offset : Int) : Selection :=
  match a.locate policy offset with
  | none => {}
  | some i => { index := some (i : Int), ancestors := a.ancestors i }

theorem select_locate (d : Document) (policy : π) (offset : Int) :
    (({} : Selection).select (Arena.ofDocument d)
      (((Arena.ofDocument d).locate policy offset).map fun i => (i : Int))).1 =
      selectionAt (Arena.ofDocument d) policy offset := by
  rw [selectionAt]
  cases hlocate : (Arena.ofDocument d).locate policy offset with
  | none => rfl
  | some i => simp [Selection.select, resolve?_natCast (Arena.locate_lt hlocate)]

/-- The tree of a document with the node of a selection marked, and what was marked. -/
def markedBuild (d : Document) (version : Int) (s : Selection) : Build Overlay :=
  let marked := treeItems d.source version mark none 0 d.tree { selection := s }
  { tree := rootNode d.tree.info marked.1
    diagnostics := treeReports d.tree
    state := marked.2 }

theorem buildSelected?_ofDocument (d : Document) (version : Int) (s : Selection) :
    buildSelected? (Arena.ofDocument d) version s = some (markedBuild d version s) :=
  build?_ofDocument d version mark { selection := s }

/-- The build that answers a request at an offset. -/
def buildAt (policy : π) (version offset : Int) (d : Document) : Build Overlay :=
  markedBuild d version (selectionAt (Arena.ofDocument d) policy offset)

/-- The result that answers a request at an offset. -/
def resultAt (policy : π) (version offset : Int) (d : Document) : Result :=
  let a := Arena.ofDocument d
  let b := buildAt policy version offset d
  { tree := (enforceSingle b.tree).1
    diagnostics := b.diagnostics
    entity := (a.locate policy offset).bind a.entity?
    selected := (enforceSingle b.tree).2.1
    version
    offset }

/-- What is noted before a document is parsed. -/
def searchingAt (offset : Int) : Notice := ⟨.event (.searching offset), some {}⟩

/-- What is noted once a document is parsed. -/
def noticesAt (policy : π) (version offset : Int) (d : Document) : List Notice :=
  let b := buildAt policy version offset d
  ⟨.event (.located (resultAt policy version offset d).entity), some {}⟩ ::
    (b.state.marks.map (fun (e, s) => ⟨.event e, some s⟩) ++
      (enforceSingle b.tree).2.2.map fun i => ⟨i, some b.state.selection⟩)

end Policy

/-- The event that a notice tells of. -/
def Notice.event? (notice : Notice) : Option Event :=
  match notice.incident with
  | .event e => some e
  | _ => none

/-- A tracer that was told of the events among some notices. -/
def told {τ : Type} [SelectionTracer τ] (tracer : τ) (notices : List Notice) : τ :=
  (notices.filterMap Notice.event?).foldl SelectionTracer.observe tracer

theorem told_append {τ : Type} [SelectionTracer τ] (tracer : τ) (ms ns : List Notice) :
    told tracer (ms ++ ns) = told (told tracer ms) ns := by
  simp only [told, List.filterMap_append, List.foldl_append]

/-- Tracers are not told that there were several selected nodes. -/
theorem event?_extra (selection : Selection) (n : Node) :
    ((enforceSingle n).2.2.map fun i => (⟨i, some selection⟩ : Notice)).filterMap
      Notice.event? = [] := by
  rw [enforceSingle]
  by_cases hcount : 1 < n.selectedCount
  · rw [if_pos hcount]
    rfl
  · rw [if_neg hcount]
    rfl

namespace Scope

variable {π τ : Type}

theorem foldl_note (incidents : List Incident) (s : Scope π τ) :
    incidents.foldl note s =
      { s with notices := s.notices ++ incidents.map fun i => ⟨i, s.converter.slot⟩ } := by
  induction incidents generalizing s with
  | nil => simp
  | cons i incidents ih =>
    rw [List.foldl_cons, ih]
    simp [note]

variable [SelectionTracer τ]

/-- What is marked in a tree is noted while the slot holds the selection that is marked. -/
theorem foldl_trace_hold (marks : List (Event × Selection)) (selection : Selection)
    (s : Scope π τ) :
    let notices := marks.map fun (e, s) => (⟨.event e, some s⟩ : Notice)
    (marks.foldl (fun s (e, selection) => (s.hold selection).trace e) s).hold selection =
      { s.hold selection with
        tracer := told s.tracer notices
        notices := s.notices ++ notices } := by
  induction marks generalizing s with
  | nil => simp [hold, told]
  | cons mark marks ih =>
    intro notices
    rw [List.foldl_cons, ih]
    simp [notices, hold, trace, note, told, Notice.event?]

variable (policy : π) (tracer : τ) (notices : List Notice) (parses : Nat) (d : Document)
  (version offset : Int)

theorem build_ofDocument (selection : Selection) :
    let b := markedBuild d version selection
    let marks := b.state.marks.map fun (e, s) => (⟨.event e, some s⟩ : Notice)
    build ⟨⟨policy, some selection⟩, tracer, notices, parses⟩ (.ofDocument d) version =
      (.ok b,
        ⟨⟨policy, some b.state.selection⟩, told tracer marks, notices ++ marks, parses⟩) := by
  intro b marks
  rw [build, Option.getD_some, buildSelected?_ofDocument]
  dsimp only
  rw [foldl_trace_hold]
  rfl

variable [SelectionPolicy π]

/-- The located entity is noted, and then the slot holds its selection. -/
theorem select_trace_located :
    let a := Arena.ofDocument d
    let located := Event.located ((a.locate policy offset).bind a.entity?)
    (trace ⟨⟨policy, some {}⟩, tracer, notices, parses⟩ located).select a
        (a.locate policy offset) =
      ⟨⟨policy, some (selectionAt a policy offset)⟩, SelectionTracer.observe tracer located,
        notices ++ [⟨.event located, some {}⟩], parses⟩ := by
  intro a located
  rw [← select_locate]
  rfl

/-- With an empty selection in the slot, the answer and all that is noted are those for the
located entity. -/
theorem locateAndBuild_ofDocument :
    let more := noticesAt policy version offset d
    locateAndBuild ⟨⟨policy, some {}⟩, tracer, notices, parses⟩ (.ofDocument d) version offset =
      (.ok (resultAt policy version offset d),
        ⟨⟨policy, some (buildAt policy version offset d).state.selection⟩, told tracer more,
          notices ++ more, parses⟩) := by
  intro more
  rw [locateAndBuild]
  dsimp only
  rw [select_trace_located, build_ofDocument]
  dsimp only
  rw [foldl_note]
  simp only [more, noticesAt, told, List.filterMap_cons, List.filterMap_append, event?_extra,
    List.append_nil, List.append_assoc, List.singleton_append]
  rfl

end Scope

namespace Converter

variable {π τ : Type} (c : Converter π)

/-- What is noted if the slot is not empty when a request begins. -/
def staleNotices : List Notice :=
  if c.slot.isSome then [⟨.staleSelection, c.slot⟩] else []

theorem enter_eq (tracer : τ) : Scope.enter c tracer =
    { converter := { c with slot := some {} }, tracer, notices := c.staleNotices } := by
  rw [Scope.enter, staleNotices]
  cases hslot : c.slot <;> simp [Scope.hold, Scope.note, hslot]

theorem told_staleNotices [SelectionTracer τ] (tracer : τ) :
    told tracer c.staleNotices = tracer := by
  rw [staleNotices]
  cases c.slot.isSome <;> rfl

variable [SelectionPolicy π] [SelectionTracer τ] (tracer : τ) {r : Request} {version : Int}

/-- Serving a document that cannot be parsed. -/
theorem serve_of_parserFailure {reason : String} (hp : r.parserFailure = some reason) :
    let searching := searchingAt (clampOffset r.offset r.document.source.length)
    c.serve tracer version r =
      ({ answer := .error (.parserFailure reason)
         converter := { c with slot := none }
         notices := c.staleNotices ++ [searching]
         parses := 1 }, told tracer [searching]) := by
  intro searching
  rw [serve, enter_eq, Scope.answer, Scope.parse, hp]
  rfl

/-- Serving a document that can be parsed. -/
theorem serve_of_parsed (hp : r.parserFailure = none) :
    let offset := clampOffset r.offset r.document.source.length
    let notices := searchingAt offset :: noticesAt c.policy version offset r.document
    c.serve tracer version r =
      ({ answer := .ok (resultAt c.policy version offset r.document)
         converter := { c with slot := none }
         notices := c.staleNotices ++ notices
         parses := 1 }, told tracer notices) := by
  intro offset notices
  rw [serve, enter_eq, Scope.answer, Scope.parse, hp]
  dsimp only
  rw [Scope.trace, Scope.note, Scope.locateAndBuild_ofDocument, Scope.leave, List.append_assoc]
  rfl

/-- A request for a version that is not supported has no other effect than its answer. -/
theorem convertTracing_of_unsupported (hv : r.version.supported? = none) :
    c.convertTracing tracer r =
      ({ answer := .error (.unsupportedVersion ⟨r.version⟩), converter := c }, tracer) := by
  rw [convertTracing, hv]

theorem convertTracing_of_supported (hv : r.version.supported? = some version) :
    c.convertTracing tracer r = c.serve tracer version r := by
  rw [convertTracing, hv]

/-- A tracer has no part in the outcome. It is told of the events that are noted. -/
theorem convertTracing_eq :
    c.convertTracing tracer r = (c.convert r, told tracer (c.convert r).notices) := by
  rw [convert]
  cases hv : r.version.supported? with
  | none =>
    rw [convertTracing_of_unsupported c tracer hv, convertTracing_of_unsupported c () hv]
    rfl
  | some version =>
    rw [convertTracing_of_supported c tracer hv, convertTracing_of_supported c () hv]
    cases hp : r.parserFailure with
    | some reason =>
      rw [serve_of_parserFailure c tracer hp, serve_of_parserFailure c () hp]
      dsimp only
      rw [told_append, told_staleNotices]
    | none =>
      rw [serve_of_parsed c tracer hp, serve_of_parsed c () hp]
      dsimp only
      rw [told_append, told_staleNotices]

section Convert

variable (hv : r.version.supported? = some version)

include hv

theorem convert_of_parserFailure {reason : String} (hp : r.parserFailure = some reason) :
    c.convert r =
      { answer := .error (.parserFailure reason)
        converter := { c with slot := none }
        notices := c.staleNotices ++
          [searchingAt (clampOffset r.offset r.document.source.length)]
        parses := 1 } := by
  rw [convert, convertTracing_of_supported c () hv, serve_of_parserFailure c () hp]

theorem convert_of_parsed (hp : r.parserFailure = none) :
    let offset := clampOffset r.offset r.document.source.length
    c.convert r =
      { answer := .ok (resultAt c.policy version offset r.document)
        converter := { c with slot := none }
        notices := c.staleNotices ++
          searchingAt offset :: noticesAt c.policy version offset r.document
        parses := 1 } := by
  intro offset
  rw [convert, convertTracing_of_supported c () hv, serve_of_parsed c () hp]

/-- A request for a supported version of a document that can be parsed has a result. -/
theorem answer_convert (hp : r.parserFailure = none) :
    (c.convert r).answer = .ok (resultAt c.policy version
      (clampOffset r.offset r.document.source.length) r.document) := by
  rw [convert_of_parsed c hv hp]

end Convert

theorem convert_of_unsupported (hv : r.version.supported? = none) :
    c.convert r =
      { answer := .error (.unsupportedVersion ⟨r.version⟩), converter := c } := by
  rw [convert, convertTracing_of_unsupported c () hv]

end Converter

end SyntaxCursor.Conversion
