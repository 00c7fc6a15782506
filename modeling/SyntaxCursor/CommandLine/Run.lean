import SyntaxCursor.CommandLine.Command
import SyntaxCursor.Display.Table
import SyntaxCursor.Display.TreeView
import SyntaxCursor.Navigation.Navigator

/-!
# Running a command

A run prints texts one after another. It ends well, or with a message that tells why there is
no answer, or because a text cannot be shown: what was printed before stays, and of that text
nothing is printed. `run` is a function of the environment and of the files there are.
-/
namespace SyntaxCursor.CommandLine

open Abstract Conversion Display Navigation

/-- The lines of a text that is to be printed, or why it cannot be shown. -/
abbrev Printout := Except DisplayError (List (List Char))

inductive Failure (ρ : Type := Empty) where
  | display (e : DisplayError)
  | navigator (e : NavigatorError ρ)
  | unknownTransport (name : String)
  deriving DecidableEq, Repr

def Failure.message {ρ : Type} [ToString ρ] : Failure ρ → String
  | .display e => e.message
  | .navigator e => e.message
  | .unknownTransport name => "Unknown transport: " ++ name

inductive Ending (ρ : Type := Empty) where
  | done
  /-- The words are not a command. -/
  | misuse
  /-- A message tells why there is no answer. -/
  | refused
  | failed (e : Failure ρ)
  /-- A server is to be started over a transport. -/
  | serving (transport : String)
  deriving DecidableEq, Repr

/-- The exit code of a run: zero if it ended well. -/
def Ending.exitCode {ρ : Type} : Ending ρ → UInt32
  | .done => 0
  | .serving _ => 0
  | .refused => 1
  | .failed _ => 1
  | .misuse => 2

/-- What a run prints, how it ends, and what happened on the way. -/
structure Run (ρ : Type := Empty) where
  lines : List (List Char) := []
  ending : Ending ρ := .done
  incidents : List Incident := []
  deriving Inhabited

/-- Print texts until one cannot be shown; if all can, the run ends as told. -/
def Run.print {ρ : Type} (ending : Ending ρ) (incidents : List Incident) :
    List Printout → Run ρ
  | [] => { ending, incidents }
  | .ok lines :: rest =>
    let r := Run.print ending incidents rest
    { r with lines := lines ++ r.lines }
  | .error e :: _ => { ending := .failed (.display e), incidents }

def marked (s : String) : Printout :=
  (renderLines .fold consoleWidth s.toList).mapError .markup

/-- A table as a printout, if the numbers in it can be written. -/
def tabulated (t : Except NumeralTooLong Table) : Printout := do
  (← t.mapError .numeral).lines.mapError .markup

/-- A position as it stands in a cell. -/
def positionText (p : Position) : Except NumeralTooLong (List Char) := do
  return (← numeralText p.line) ++ ':' :: (← numeralText p.column)

def nodeTable (info : NodeInfo) (r : Range) : Except NumeralTooLong Table := do
  let extent := (← positionText r.start) ++ '-' :: (← positionText r.stop)
  let numbers ← [info.line, info.start, info.stop].mapM numeralText
  return {
    header := ["kind", "line", "start_byte", "end_byte", "range"].map String.toList
    rows := [info.kind.toList :: numbers ++ [extent]] }

def diagnosticRow (d : Diagnostic) : Except NumeralTooLong (List (List Char)) := do
  return (← [d.line, d.start, d.length].mapM numeralText) ++ [d.message.toList]

def diagnosticsTable (ds : List Diagnostic) : Except NumeralTooLong Table := do
  return {
    title := some "Diagnostics".toList
    header := ["line", "start", "length", "message"].map String.toList
    rows := ← ds.mapM diagnosticRow }

section Ask

variable {ρ : Type} [ToString ρ]

def Run.refuse (e : NavigatorError ρ) (incidents : List Incident) : Run ρ :=
  Run.print .refused incidents [marked ("[red]" ++ e.message ++ "[/red]")]

/-- Print an answer or why it was refused; other errors break the run off. -/
def Run.ofReply {α : Type} (r : Reply α ρ) (printouts : α → List Printout) : Run ρ :=
  match r.answer with
  | .ok a => Run.print .done r.incidents (printouts a)
  | .error e =>
    if e.isRefusal then Run.refuse e r.incidents
    else { ending := .failed (.navigator e), incidents := r.incidents }

def FileRequest.targetVersion (request : FileRequest) :
    Except (NavigatorError ρ) VersionRequest :=
  match request.version with
  | none => .ok .absent
  | some s =>
    match (VersionRequest.text s).normalize with
    | .ok n => .ok (.number n)
    | .error e => .error (.convert (.unsupportedVersion e))

/-- The navigator for a request: its version is read before the settings are. -/
def FileRequest.navigator (request : FileRequest) (env : Environment) :
    Except (NavigatorError ρ) Navigator := do
  let version ← request.targetVersion
  (Navigator.create env version none (if request.trace then some true else none) []).mapError
    .settings

def FileRequest.run {α : Type} (request : FileRequest) (env : Environment)
    (ask : Navigator → Path → Reply α ρ) (printouts : α → List Printout) : Run ρ :=
  match request.navigator env with
  | .error e => Run.refuse e []
  | .ok nav => Run.ofReply (ask nav (.ofString request.path)) printouts

end Ask

/-- What is printed for a node and its location. -/
def locatedPrintouts : Option (Node × Location) → List Printout
  | some (n, { uri := some uri, range := some r }) => [tabulated (nodeTable n.info r), marked uri]
  | _ => [.ok ["(no selection)".toList]]

def treePrintouts (r : Result) : List Printout :=
  treeLines r.tree ::
    (if r.diagnostics.isEmpty then [] else [tabulated (diagnosticsTable r.diagnostics)])

/-- The transports that a server can be started over. -/
def transports : List String := ["stdio", "http", "sse", "streamable-http"]

def runServer {ρ : Type} (env : Environment) (transport : String) : Run ρ :=
  match Settings.ofEnvironment env with
  | .error e => { ending := .failed (.navigator (.settings e)) }
  | .ok _ =>
    let announcement := "[green]Starting MCP server (transport: " ++ transport ++ ")[/green]"
    Run.print
      (if transports.contains transport then .serving transport
        else .failed (.unknownTransport transport))
      [] [marked announcement]

section Command

variable {ρ : Type} [ToString ρ] (env : Environment) (files : Files ρ)

def Command.run : Command → Run ρ
  | .help => {}
  | .locate request position =>
    request.run env (fun nav p => nav.locate files p position) locatedPrintouts
  | .tree request offset =>
    request.run env (fun nav p => nav.parseFile files p offset) treePrintouts
  | .serve transport => runServer env transport

def runWords (words : List String) : Run ρ :=
  match Invocation.ofWords words with
  | .ok invocation => invocation.command.run env files
  | .error .misuse => { ending := .misuse }
  | .error .nullInPath => { ending := .failed (.navigator .nullInPath) }

end Command

end SyntaxCursor.CommandLine
