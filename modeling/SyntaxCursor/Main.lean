import SyntaxCursor.CommandLine.Run
import SyntaxCursor.Record.Document
import SyntaxCursor.Record.Json

/-!
# The program

The outer layer of the command line: it reads the environment, the file that the command is
about and the parse that is kept beside it as JSON, runs the command, and prints.
-/
namespace SyntaxCursor.CommandLine

open Navigation Record

/-- Where the parse of a file is kept. -/
def parsePath (path : String) : String := path ++ ".parse.json"

def Command.path? : Command → Option String
  | .locate request _ => some request.path
  | .tree request _ => some request.path
  | _ => none

/-- The bytes of the file at a path, or why they cannot be read, if there is a file. -/
def readBytes? (path : String) : IO (Option (Except IO.Error (List UInt8))) := do
  try
    return some (.ok (← IO.FS.readBinFile path).toList)
  catch
    | .noFileOrDirectory .. => return none
    | e => return some (.error e)

/-- The file at a path with its parse, if it is there. -/
def readFiles (path : String) : IO (Files IO.Error) := do
  match ← readBytes? path with
  | none => return {}
  | some (.error e) => return { entries := [(.ofString path, .unreadable e)] }
  | some (.ok source) =>
    let parse := (← readBytes? (parsePath path)).bind Except.toOption
    let listing := parse.bind fun bytes => Datum.ofJson? (String.ofList (Utf8.decode bytes))
    match listing.bind (readDocument? source) with
    | some d => return { entries := [(.ofString path, d)] }
    | none => throw (IO.userError ("No parse of the file: " ++ parsePath path))

def readEnvironment : IO Environment := do
  return {
    astVersion := ← IO.getEnv "PHPNAV_AST_VERSION"
    trace := ← IO.getEnv "PHPNAV_TRACE"
    nameKinds := ← IO.getEnv "PHPNAV_NAME_KINDS" }

def usage : String :=
  "Usage: locate PATH --line N --column N [--ast-version V] [--trace]\n" ++
  "       tree PATH [--offset N] [--ast-version V] [--trace]\n" ++
  "       serve mcp [--transport T]"

/-- Run an invocation and print what it shows; what happened on the way goes to the error
output, the trace only when asked for. -/
def Invocation.execute (invocation : Invocation) : IO UInt32 := do
  let files ←
    match invocation.command.path? with
    | some path => readFiles path
    | none => pure {}
  let run := invocation.command.run (← readEnvironment) files
  for incident in run.incidents do
    if invocation.verbose || !incident.isTrace then IO.eprintln incident.text
  if invocation.command = .help then IO.println usage
  for line in run.lines do
    IO.println (String.ofList line)
  match run.ending with
  | .failed e => IO.eprintln e.message
  | .serving transport => IO.eprintln ("No server is installed for the transport: " ++ transport)
  | _ => pure ()
  return run.ending.exitCode

end SyntaxCursor.CommandLine

/-- Run the program on the words of its command line. -/
def main (words : List String) : IO UInt32 := do
  match SyntaxCursor.CommandLine.Invocation.ofWords words with
  | .ok invocation => invocation.execute
  | .error .misuse =>
    IO.eprintln SyntaxCursor.CommandLine.usage
    return (.misuse : SyntaxCursor.CommandLine.Ending).exitCode
  | .error .nullInPath =>
    IO.eprintln (.nullInPath : SyntaxCursor.Navigation.NavigatorError).message
    return (.refused : SyntaxCursor.CommandLine.Ending).exitCode
