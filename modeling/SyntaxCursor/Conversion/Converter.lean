import SyntaxCursor.Abstract.Selected
import SyntaxCursor.Concrete.Locate
import SyntaxCursor.Conversion.Selection
import SyntaxCursor.Text.CodePoint
import SyntaxCursor.Version

/-!
# Converting a document for a cursor

A converter answers requests one after another. For each it finds the entity under the
cursor, builds the abstract tree of the document, and marks the node of that entity. Between
requests its selection slot is empty; a slot that is still full when a request begins is
noted and cleared. A request for a version that is not supported changes nothing at all.
-/
namespace SyntaxCursor.Conversion

open Abstract Concrete

/-- Something that happened while a request was answered. -/
inductive Incident where
  | event (e : Event)
  /-- The selection slot was still full when a request began. -/
  | staleSelection
  /-- More nodes than one were selected in the finished tree. -/
  | extraSelections (count : Nat)
  deriving DecidableEq, Repr

def Event.text : Event → String
  | .searching offset => "Searching for byte offset " ++ Number.integerText offset
  | .located none => "No entity at offset"
  | .located (some e) =>
    "Found " ++ (if e.isToken then "token" else "node") ++ " " ++ e.kind ++
      " [" ++ Number.integerText e.start ++ ", " ++ Number.integerText e.stop ++ ")"
  | .marked node e =>
    "Marking " ++ node.kind ++ " (line " ++ Number.integerText node.line ++ ") as selected for " ++
      e.kind ++ " #" ++ Number.integerText e.index

def Incident.text : Incident → String
  | .event e => e.text
  | .staleSelection =>
    "Selection state was not cleared before a new request; resetting it"
  | .extraSelections count =>
    Number.integerText count ++ " abstract nodes were marked as selected; keeping the first"

/-- Whether an incident belongs to the trace of a request; the others are errors. -/
def Incident.isTrace : Incident → Bool
  | .event _ => true
  | _ => false

/-- An incident, and what the selection slot held at that moment. -/
structure Notice where
  incident : Incident
  slot : Option Selection
  deriving Repr

inductive ConvertError where
  | unsupportedVersion (e : UnsupportedVersion)
  /-- The parser failed and gave this reason. -/
  | parserFailure (reason : String)
  /-- The arena is not one of a parse tree. -/
  | brokenArena
  deriving DecidableEq, Repr

structure Result where
  tree : Node
  diagnostics : List Diagnostic
  /-- The entity under the cursor. -/
  entity : Option Entity
  /-- Where the selected node stands in document order. -/
  selected : Option Nat
  version : Int
  /-- The byte offset of the cursor, inside the source. -/
  offset : Int

def Result.selectedNode (r : Result) : Option Node := r.selected.bind (r.tree.nodes[·]?)

/-- A document to convert, and where its cursor is. -/
structure Request where
  document : Document
  /-- The reason why the parser fails on this document, if it does. -/
  parserFailure : Option String := none
  version : VersionRequest
  offset : Int

/-- A request of which the source is given as a text. -/
structure TextRequest where
  text : List Utf8.CodePoint
  /-- What the parser makes of the bytes of the text. -/
  tree : ParseTree
  hasError : Bool
  parserFailure : Option String := none
  version : VersionRequest
  offset : Int

def TextRequest.encoded (r : TextRequest) : Except Utf8.EncodingError Request :=
  (Utf8.encodeText r.text).map fun source =>
    { document := { source, tree := r.tree, hasError := r.hasError }
      parserFailure := r.parserFailure
      version := r.version
      offset := r.offset }

/-- Why a request with a text has no result. -/
inductive TextError where
  | encoding (e : Utf8.EncodingError)
  | convert (e : ConvertError)
  deriving DecidableEq, Repr

/-- A tracer is told of the events of a request, one after another. -/
class SelectionTracer (τ : Type) where
  observe : τ → Event → τ

/-- The tracer that does not listen. -/
instance : SelectionTracer Unit := ⟨fun t _ => t⟩

/-- The tracer that keeps all it is told. -/
instance : SelectionTracer (List Event) := ⟨fun events e => events ++ [e]⟩

/-- What is kept between requests. -/
structure Converter (π : Type := NamePolicy) where
  policy : π
  slot : Option Selection := none
  deriving Repr

/-- All that answering a request has brought. -/
structure Outcome (π : Type := NamePolicy) (ε : Type := ConvertError) where
  answer : Except ε Result
  converter : Converter π
  notices : List Notice := []
  /-- How often the parser was called. -/
  parses : Nat := 0

/-- Build the tree of an arena with the node of one entity marked. -/
def buildSelected? (a : Arena) (version : Int) (s : Selection) : Option (Build Overlay) :=
  build? a version mark { selection := s }

/-- Keep one selected node in a tree, and note it if there were more. -/
def enforceSingle (tree : Node) : Node × Option Nat × List Incident :=
  let count := tree.selectedCount
  if 1 < count then (tree.keepFirst, tree.firstSelected?, [.extraSelections count])
  else (tree, tree.firstSelected?, [])

/-- A request while it is answered. -/
structure Scope (π τ : Type) where
  converter : Converter π
  tracer : τ
  notices : List Notice := []
  parses : Nat := 0

namespace Scope

variable {π τ : Type}

def hold (s : Scope π τ) (selection : Selection) : Scope π τ :=
  { s with converter := { s.converter with slot := some selection } }

/-- Note an incident, with what the slot holds. -/
def note (s : Scope π τ) (i : Incident) : Scope π τ :=
  { s with notices := s.notices ++ [⟨i, s.converter.slot⟩] }

/-- Begin a request: an empty selection is put into the slot, which should be free. -/
def enter (c : Converter π) (tracer : τ) : Scope π τ :=
  let s : Scope π τ := { converter := c, tracer }
  (if c.slot.isSome then s.note .staleSelection else s).hold {}

/-- End a request: the slot is free again, whatever the answer is. -/
def leave (s : Scope π τ) (answer : Except ConvertError Result) : Outcome π × τ :=
  ({ answer
     converter := { s.converter with slot := none }
     notices := s.notices
     parses := s.parses }, s.tracer)

def parse (s : Scope π τ) (r : Request) : Except ConvertError Arena × Scope π τ :=
  (match r.parserFailure with
    | some reason => .error (.parserFailure reason)
    | none => .ok (.ofDocument r.document),
    { s with parses := s.parses + 1 })

def select (s : Scope π τ) (a : Arena) (index : Option Nat) : Scope π τ :=
  s.hold ((s.converter.slot.getD {}).select a (index.map fun i => (i : Int))).1

variable [SelectionTracer τ]

/-- Note an event, and tell the tracer of it. -/
def trace (s : Scope π τ) (e : Event) : Scope π τ :=
  { s.note (.event e) with tracer := SelectionTracer.observe s.tracer e }

/-- Build the tree of an arena; the slot holds the entity that is to be marked. -/
def build (s : Scope π τ) (a : Arena) (version : Int) :
    Except ConvertError (Build Overlay) × Scope π τ :=
  match buildSelected? a version (s.converter.slot.getD {}) with
  | none => (.error .brokenArena, s)
  | some b =>
    let s := b.state.marks.foldl (fun s (e, selection) => (s.hold selection).trace e) s
    (.ok b, s.hold b.state.selection)

variable [SelectionPolicy π]

/-- Find the entity at an offset, build the tree, and see to it that one node is marked. -/
def locateAndBuild (s : Scope π τ) (a : Arena) (version offset : Int) :
    Except ConvertError Result × Scope π τ :=
  let index := a.locate s.converter.policy offset
  let entity := index.bind a.entity?
  match ((s.trace (.located entity)).select a index).build a version with
  | (.error e, s) => (.error e, s)
  | (.ok b, s) =>
    let (tree, selected, extra) := enforceSingle b.tree
    (.ok { tree, diagnostics := b.diagnostics, entity, selected, version, offset },
      extra.foldl note s)

def answer (s : Scope π τ) (version : Int) (r : Request) :
    Except ConvertError Result × Scope π τ :=
  let offset := clampOffset r.offset r.document.source.length
  match (s.trace (.searching offset)).parse r with
  | (.error e, s) => (.error e, s)
  | (.ok a, s) => s.locateAndBuild a version offset

end Scope

namespace Converter

variable {π τ : Type} [SelectionPolicy π] [SelectionTracer τ]

def serve (c : Converter π) (tracer : τ) (version : Int) (r : Request) : Outcome π × τ :=
  let (answer, s) := (Scope.enter c tracer).answer version r
  s.leave answer

def convertTracing (c : Converter π) (tracer : τ) (r : Request) : Outcome π × τ :=
  match r.version.supported? with
  | none => ({ answer := .error (.unsupportedVersion ⟨r.version⟩), converter := c }, tracer)
  | some version => c.serve tracer version r

def convert (c : Converter π) (r : Request) : Outcome π := (c.convertTracing () r).1

/-- Answer a request with a text. The version is looked at before the text is encoded. -/
def convertText (c : Converter π) (r : TextRequest) : Outcome π TextError :=
  match r.version.supported? with
  | none => { answer := .error (.convert (.unsupportedVersion ⟨r.version⟩)), converter := c }
  | some version =>
    match r.encoded with
    | .error e => { answer := .error (.encoding e), converter := c }
    | .ok request =>
      let o := (c.serve () version request).1
      { o with answer := o.answer.mapError .convert }

end Converter

def convert {π : Type} [SelectionPolicy π] (policy : π) (r : Request) : Outcome π :=
  ({ policy } : Converter π).convert r

end SyntaxCursor.Conversion
