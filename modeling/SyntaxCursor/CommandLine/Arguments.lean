/-!
# Options and arguments

The words of a command line are options and other arguments. A long option begins with two
hyphens and may carry a value, behind an equals sign or as the next word whatever that is. A
short option is one letter behind a hyphen, and several of them may share it. Two hyphens
alone end the options; a single hyphen is an ordinary argument.
-/
namespace SyntaxCursor.CommandLine

structure OptionNames where
  /-- Long options with a value. -/
  valued : List String := []
  /-- Long options without one. -/
  flags : List String := []
  /-- Short options, each with the long one that it stands for. -/
  letters : List (Char × String) := []

/-- Options in the order in which they were given, and the other arguments. -/
structure Arguments where
  options : List (String × String) := []
  positional : List String := []
  deriving DecidableEq, Repr, Inhabited

namespace Arguments

/-- The value that was given last for an option. -/
def value? (args : Arguments) (name : String) : Option String :=
  args.options.reverse.lookup name

def has (args : Arguments) (name : String) : Bool := (args.value? name).isSome

/-- Put options before those that were given. -/
def withOptions (options : List (String × String)) (args : Arguments) : Arguments :=
  { args with options := options ++ args.options }

def withPositional (word : String) (args : Arguments) : Arguments :=
  { args with positional := word :: args.positional }

end Arguments

/-- What a single word of a command line is. -/
inductive Word where
  | plain
  /-- Two hyphens. -/
  | stop
  /-- Complete options; a flag has an empty value. -/
  | options (given : List (String × String))
  /-- An option whose value is the next word. -/
  | awaiting (name : String)
  | unknown
  deriving DecidableEq, Repr

namespace OptionNames

/-- A long option with the value behind its equals sign, if it has one. -/
def longOption (names : OptionNames) (name : String) (value : Option String) : Word :=
  if names.valued.contains name then
    match value with
    | some v => .options [(name, v)]
    | none => .awaiting name
  else if names.flags.contains name && value.isNone then .options [(name, "")]
  else .unknown

/-- The flags that letters behind one hyphen stand for. -/
def shortOptions (names : OptionNames) (letters : List Char) : Word :=
  match letters.mapM fun c => names.letters.lookup c with
  | some flags => .options (flags.map (·, ""))
  | none => .unknown

def classify (names : OptionNames) (word : String) : Word :=
  match word.toList with
  | ['-', '-'] => .stop
  | '-' :: '-' :: rest =>
    let name := String.ofList (rest.takeWhile (· != '='))
    let value := (rest.dropWhile (· != '=')).tail?.map String.ofList
    names.longOption name value
  | '-' :: c :: rest => names.shortOptions (c :: rest)
  | _ => .plain

end OptionNames

/-- Read the words of a command line; `none` if an option is unknown or has no value, or a
flag has one. When `leading` is set, the options end at the first other argument. -/
def readArguments? (names : OptionNames) (leading : Bool) : List String → Option Arguments
  | [] => some {}
  | word :: rest =>
    match names.classify word with
    | .stop => some { positional := rest }
    | .plain =>
      if leading then some { positional := word :: rest }
      else (readArguments? names leading rest).map (.withPositional word)
    | .options given => (readArguments? names leading rest).map (.withOptions given)
    | .awaiting name =>
      match rest with
      | [] => none
      | value :: rest => (readArguments? names leading rest).map (.withOptions [(name, value)])
    | .unknown => none

end SyntaxCursor.CommandLine
