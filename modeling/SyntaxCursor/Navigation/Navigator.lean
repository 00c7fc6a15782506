import SyntaxCursor.Conversion.Converter
import SyntaxCursor.Navigation.Analyzer
import SyntaxCursor.Path
import SyntaxCursor.Position
import SyntaxCursor.Settings

/-!
# Navigating files

A navigator answers where in a file's tree a position is. It reads the file, converts it with
a fresh converter, and lets its analyzers see the tree. What is not given when it is made is
taken from the settings of its environment, which have to be readable in any case. A file may be
there and yet not be readable; of the errors that reading it ends with (`ρ`) only that there is no
file is told in words of its own, all others are passed on as they are.
-/
namespace SyntaxCursor.Navigation

open Abstract Concrete Conversion

/-- What is at a path: a document, or something that cannot be read. -/
inductive File (ρ : Type := Empty) where
  | document (d : Document)
  | unreadable (e : ρ)

instance {ρ : Type} : Coe Document (File ρ) := ⟨.document⟩

/-- The files there are, the documents among them with their parses. -/
structure Files (ρ : Type := Empty) where
  entries : List (Path × File ρ) := []
  deriving Inhabited

/-- Why a navigator has no answer. -/
inductive NavigatorError (ρ : Type := Empty) where
  | fileNotFound (path : Path)
  | unreadable (e : ρ)
  /-- The path has a null character in it, and so the file has no URI. -/
  | nullInPath
  | convert (e : ConvertError)
  /-- An analyzer gave up for this reason. -/
  | analyzer (reason : String)
  | settings (e : SettingsError)
  deriving DecidableEq, Repr

instance instToStringEmpty : ToString Empty := ⟨nofun⟩

namespace Files

variable {ρ : Type} (files : Files ρ)

/-- What is at a path; of two entries for it the later one counts. -/
def entry? (p : Path) : Option (File ρ) := files.entries.reverse.lookup p

def find? (p : Path) : Option Document :=
  match files.entry? p with
  | some (.document d) => some d
  | _ => none

def read (p : Path) : Except (NavigatorError ρ) Document :=
  match files.entry? p with
  | some (.document d) => .ok d
  | some (.unreadable e) => .error (.unreadable e)
  | none => .error (.fileNotFound p)

theorem read_of_find? {p : Path} {d : Document} (h : files.find? p = some d) :
    files.read p = .ok d := by
  unfold find? at h
  unfold read
  split at h
  case h_1 hentry =>
    rw [hentry]
    exact congrArg Except.ok (Option.some.inj h)
  case h_2 => contradiction

theorem read_of_unreadable {p : Path} {e : ρ} (h : files.entry? p = some (.unreadable e)) :
    files.read p = .error (.unreadable e) := by
  rw [read, h]

end Files

/-- An answer, and what happened on the way to it. -/
structure Reply (α : Type) (ρ : Type := Empty) where
  answer : Except (NavigatorError ρ) α
  calls : List Call := []
  incidents : List Incident := []

namespace Reply

variable {α β ρ : Type}

/-- The same reply with another value in the answer. -/
def map (f : α → β) (r : Reply α ρ) : Reply β ρ := { r with answer := r.answer.map f }

/-- The same reply with another answer, which may depend on the value. -/
def bind (r : Reply α ρ) (f : α → Except (NavigatorError ρ) β) : Reply β ρ :=
  { r with answer := r.answer.bind f }

end Reply

structure Navigator (π : Type := NamePolicy) where
  version : VersionRequest
  policy : π
  /-- Whether a tracer listens. What it is told is the trace of a request, and no answer depends
  on what it makes of that; errors are told in any case. -/
  tracing : Bool
  analyzers : List Analyzer

namespace Navigator

variable {π ρ : Type}

/-- Make a navigator whose policy may depend on the settings. -/
def createWith (env : Environment) (version : VersionRequest) (policy : Settings → π)
    (tracing : Option Bool) (analyzers : List Analyzer) : Except SettingsError (Navigator π) :=
  (Settings.ofEnvironment env).map fun settings =>
    { version := if version = .absent then .number settings.astVersion else version
      policy := policy settings
      tracing := tracing.getD settings.trace
      analyzers }

/-- Make a navigator. If no policy is given, it is the one of the settings. -/
def create (env : Environment) (version : VersionRequest) (policy : Option NamePolicy)
    (tracing : Option Bool) (analyzers : List Analyzer) : Except SettingsError Navigator :=
  createWith env version (fun settings => policy.getD (.ofKinds settings.nameKinds)) tracing
    analyzers

section Ask

variable [SelectionPolicy π] (nav : Navigator π)

/-- Convert a document for a cursor at a byte offset. Of the calls that its analyzers remember,
`before` are those of earlier requests. -/
def parseSource (d : Document) (offset : Int) (path : String) (before : List Call := []) :
    Reply Result ρ :=
  let o := Conversion.convert nav.policy { document := d, version := nav.version, offset }
  let incidents := (o.notices.map (·.incident)).filter fun i => nav.tracing || !i.isTrace
  match o.answer with
  | .error e => { answer := .error (.convert e), incidents }
  | .ok r =>
    let analysis := analyze nav.analyzers path before r.tree
    match analysis.failure with
    | some reason => { answer := .error (.analyzer reason), calls := analysis.calls, incidents }
    | none =>
      { answer := .ok { r with tree := analysis.tree }, calls := analysis.calls, incidents }

/-- Convert a file for a cursor at a byte offset. -/
def parseFile (files : Files ρ) (p : Path) (offset : Int) (before : List Call := []) :
    Reply Result ρ :=
  match files.read p with
  | .error e => { answer := .error e }
  | .ok d => nav.parseSource d offset p.toString before

/-- A node of a file with its location. -/
def withLocation (p : Path) (d : Document) (n : Node) :
    Except (NavigatorError ρ) (Node × Location) :=
  match p.toUri? with
  | some uri =>
    .ok (n, { uri := some uri, range := some (.ofSpan d.source n.info.start n.info.stop) })
  | none => .error .nullInPath

/-- The selected node at a position of a file, and its location. -/
def locate (files : Files ρ) (p : Path) (position : Position) (before : List Call := []) :
    Reply (Option (Node × Location)) ρ :=
  match files.read p with
  | .error e => { answer := .error e }
  | .ok d =>
    let offset := position.toOffset d.source
    (nav.parseSource d offset p.toString before).bind fun r =>
      r.selectedNode.mapM (withLocation p d)

/-- The selected node at a position of a file. -/
def resolve (files : Files ρ) (p : Path) (position : Position) (before : List Call := []) :
    Reply (Option Node) ρ :=
  (nav.locate files p position before).map (·.map Prod.fst)

/-- The location of the selected node at a position of a file. -/
def resolveLocation (files : Files ρ) (p : Path) (position : Position)
    (before : List Call := []) : Reply (Option Location) ρ :=
  (nav.locate files p position before).map (·.map Prod.snd)

end Ask

end Navigator

namespace NavigatorError

variable {ρ : Type}

def message [ToString ρ] : NavigatorError ρ → String
  | .fileNotFound p => "File not found: " ++ p.toString
  | .unreadable e => toString e
  | .nullInPath => "embedded null byte"
  | .convert (.unsupportedVersion e) => e.message
  | .convert (.parserFailure reason) => reason
  | .convert .brokenArena => "The arena is not one of a parse tree"
  | .analyzer reason => reason
  | .settings e => e.message

/-- Errors that a request brings on itself: a file that is not there, or a version that is not
supported. -/
def isRefusal : NavigatorError ρ → Bool
  | .fileNotFound _ => true
  | .convert (.unsupportedVersion _) => true
  | _ => false

end NavigatorError

end SyntaxCursor.Navigation
