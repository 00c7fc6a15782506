import SyntaxCursor.Navigation.Navigator

/-!
# The tools of the server

A server offers two tools over one navigator: `locate` tells what is at a position of a file
and `diagnostics` lists what its parse reports. A call may name a version of its own; it is
then answered by a navigator that differs in the version alone. A refused request is
answered by a text. A server answers one call after another.
-/
namespace SyntaxCursor.Navigation

open Abstract Concrete Conversion

inductive ToolAnswer (α : Type) where
  | nothing
  | message (text : String)
  | found (value : α)
  deriving Repr

inductive ToolCall where
  | locate (path : String) (position : Position) (version : VersionRequest)
  | diagnostics (path : String) (version : VersionRequest)

def ToolCall.withVersion (c : ToolCall) (version : VersionRequest) : ToolCall :=
  match c with
  | .locate path position _ => .locate path position version
  | .diagnostics path _ => .diagnostics path version

/-- What a call is answered with, as the tool gives it that was called. -/
inductive ToolResult where
  | located (answer : ToolAnswer (NodeInfo × Location))
  | diagnosed (answer : ToolAnswer (List Diagnostic))

/-- What a server has brought so far: its answers, and all that its analyzers and its tracer
were told. -/
structure Session (ρ : Type := Empty) where
  answers : List (Except (NavigatorError ρ) ToolResult) := []
  calls : List Call := []
  incidents : List Incident := []

def Session.record {ρ : Type} (s : Session ρ) (r : Reply ToolResult ρ) : Session ρ :=
  { answers := s.answers ++ [r.answer]
    calls := s.calls ++ r.calls
    incidents := s.incidents ++ r.incidents }

/-- A server: a navigator, and the environment that navigators are made in. -/
structure Server (π : Type := NamePolicy) where
  environment : Environment
  navigator : Navigator π

namespace Server

/-- The names of the tools, in alphabetical order. -/
def toolNames : List String := ["diagnostics", "locate"]

variable {π ρ : Type}

/-- The navigator that answers a call for a version. It has the analyzers of the server, and so
shares with every other what they remember. -/
def navigatorFor (server : Server π) (version : VersionRequest) :
    Except (NavigatorError ρ) (Navigator π) :=
  if version = .absent then .ok server.navigator
  else
    match version.normalize with
    | .error e => .error (.convert (.unsupportedVersion e))
    | .ok v =>
      let default := server.navigator
      (Navigator.createWith server.environment (.number v) (fun _ => default.policy)
        (some default.tracing) default.analyzers).mapError .settings

/-- Answer a refused request by a text. -/
def explain [ToString ρ] {α : Type} (r : Reply (ToolAnswer α) ρ) : Reply (ToolAnswer α) ρ :=
  match r.answer with
  | .error e =>
    if e.isRefusal then { r with answer := .ok (.message ("Error: " ++ e.message)) } else r
  | .ok _ => r

section Call

variable [SelectionPolicy π] [ToString ρ] (server : Server π) (files : Files ρ)

/-- Call a tool on the navigator for a version. -/
def call {α : Type} (server : Server π) (version : VersionRequest)
    (tool : Navigator π → Reply (ToolAnswer α) ρ) : Reply (ToolAnswer α) ρ :=
  explain <|
    match server.navigatorFor version with
    | .error e => { answer := .error e }
    | .ok nav => tool nav

def locate (path : String) (position : Position) (version : VersionRequest)
    (before : List Call := []) : Reply (ToolAnswer (NodeInfo × Location)) ρ :=
  server.call version fun nav =>
    (nav.locate files (.ofString path) position before).map fun
      | none => .nothing
      | some (node, location) => .found (node.info, location)

def diagnostics (path : String) (version : VersionRequest) (before : List Call := []) :
    Reply (ToolAnswer (List Diagnostic)) ρ :=
  server.call version fun nav =>
    (nav.parseFile files (.ofString path) 0 before).map fun r => .found r.diagnostics

def serve (c : ToolCall) (before : List Call := []) : Reply ToolResult ρ :=
  match c with
  | .locate path position version =>
    (server.locate files path position version before).map .located
  | .diagnostics path version => (server.diagnostics files path version before).map .diagnosed

/-- Answer a call in a session. The analyzers remember what they were shown in it. -/
def step (s : Session ρ) (c : ToolCall) : Session ρ := s.record (server.serve files c s.calls)

def run (calls : List ToolCall) : Session ρ := calls.foldl (server.step files) {}

end Call

end Server

end SyntaxCursor.Navigation
