import SyntaxCursor.CommandLine.Arguments
import SyntaxCursor.Number.Integer
import SyntaxCursor.Position

/-!
# Commands

A command line names what is to be shown of a file, the node at a position or the whole tree,
or a server that is to be started. Asking for help wins over everything that may be missing,
as long as all options can be read. The values of options are looked at first, then the path
of the file, and only then what is missing or too much.
-/
namespace SyntaxCursor.CommandLine

/-- What showing a file depends on, the place in it apart. -/
structure FileRequest where
  path : String
  /-- The target version as it was given. -/
  version : Option String
  trace : Bool
  deriving DecidableEq, Repr, Inhabited

inductive Command where
  | help
  | locate (request : FileRequest) (position : Position)
  | tree (request : FileRequest) (offset : Int)
  | serve (transport : String)
  deriving DecidableEq, Repr, Inhabited

/-- A command, and whether it is to tell more about what it does. -/
structure Invocation where
  command : Command
  verbose : Bool := false
  deriving DecidableEq, Repr, Inhabited

/-- Why words are not taken for an invocation. -/
inductive Rejection where
  /-- They are not a command with what it needs. -/
  | misuse
  /-- The file that they name has a null character in its path. -/
  | nullInPath
  deriving DecidableEq, Repr

/-- The options of a group of commands. -/
def groupOptions : OptionNames := { flags := ["help"], letters := [('h', "help")] }

def mainOptions : OptionNames :=
  { flags := ["verbose", "help"], letters := [('v', "verbose"), ('h', "help")] }

def fileOptions (valued : List String) : OptionNames :=
  { groupOptions with
    valued := "ast-version" :: valued
    flags := ["trace", "no-trace", "help"] }

def serverOptions : OptionNames := { groupOptions with valued := ["transport"] }

namespace Arguments

/-- The integer given for an option, if it is given. -/
def integer (args : Arguments) (name : String) : Except Rejection (Option Int) :=
  match args.value? name with
  | none => .ok none
  | some s =>
    match Number.decimal? s.toList with
    | some n => .ok (some n)
    | none => .error .misuse

def trace (args : Arguments) : Bool :=
  ((args.options.map Prod.fst).reverse.find? fun name =>
    name == "trace" || name == "no-trace") == some "trace"

/-- The request for the only argument, which is a file. -/
def fileRequest (args : Arguments) : Except Rejection FileRequest :=
  match args.positional with
  | [] => .error .misuse
  | path :: others =>
    if path.toList.contains '\x00' then .error .nullInPath
    else if others.isEmpty then
      .ok { path, version := args.value? "ast-version", trace := args.trace }
    else .error .misuse

end Arguments

/-- Read arguments and make a command of them, unless they ask for help. -/
def unlessHelp (names : OptionNames) (leading : Bool) (words : List String)
    (make : Arguments → Except Rejection Command) : Except Rejection Command :=
  match readArguments? names leading words with
  | none => .error .misuse
  | some args => if args.has "help" then .ok .help else make args

def locateCommand (words : List String) : Except Rejection Command :=
  unlessHelp (fileOptions ["line", "column"]) false words fun args => do
    let line ← args.integer "line"
    let column ← args.integer "column"
    let request ← args.fileRequest
    match line, column with
    | some line, some column => .ok (.locate request ⟨line, column⟩)
    | _, _ => .error .misuse

/-- The command for the tree of a file. Without an offset its start is meant. -/
def treeCommand (words : List String) : Except Rejection Command :=
  unlessHelp (fileOptions ["offset"]) false words fun args => do
    let offset ← args.integer "offset"
    let request ← args.fileRequest
    return .tree request (offset.getD 0)

def serverCommand (words : List String) : Except Rejection Command :=
  unlessHelp serverOptions false words fun args =>
    if args.positional.isEmpty then .ok (.serve ((args.value? "transport").getD "stdio"))
    else .error .misuse

/-- The command for one of the servers there are. -/
def serveCommand (words : List String) : Except Rejection Command :=
  unlessHelp groupOptions true words fun args =>
    match args.positional with
    | "mcp" :: rest => serverCommand rest
    | _ => .error .misuse

def commandOf (args : Arguments) : Except Rejection Command :=
  match args.positional with
  | "locate" :: rest => locateCommand rest
  | "tree" :: rest => treeCommand rest
  | "serve" :: rest => serveCommand rest
  | _ => .error .misuse

def Invocation.ofWords (words : List String) : Except Rejection Invocation := do
  match readArguments? mainOptions true words with
  | none => .error .misuse
  | some args =>
    let command ← if args.has "help" then .ok .help else commandOf args
    return { command, verbose := args.has "verbose" }

end SyntaxCursor.CommandLine
