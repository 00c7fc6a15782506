import SyntaxCursor.Text.Quoted
import SyntaxCursor.Version

/-!
# Settings

What an environment says about the default version, about tracing, and about the kinds of
tokens that stand for the node they hang under. A variable that is not set, or a version that
is blank, leaves the default.
-/
namespace SyntaxCursor

/-- The variables that settings are read from, as far as they are set. -/
structure Environment where
  astVersion : Option String := none
  trace : Option String := none
  nameKinds : Option String := none
  deriving Repr, Inhabited

structure Settings where
  astVersion : Int := defaultVersion
  trace : Bool := false
  nameKinds : List String := ["name"]
  deriving DecidableEq, Repr, Inhabited

/-- The variable for the version holds something that is no integer. -/
structure SettingsError where
  value : String
  deriving DecidableEq, Repr

def SettingsError.message (e : SettingsError) : String :=
  "PHPNAV_AST_VERSION must be an integer, got " ++ String.ofList (Text.quoted e.value.toList)

namespace Settings

/-- Words that switch something on. Only the ASCII capitals have the letters of these words
as their lower-case forms, so that lowering ASCII is enough. -/
def isOn (s : String) : Bool :=
  ["1", "true", "yes", "on"].contains (String.ofList ((Text.trim s).toList.map Char.toLower))

/-- The trimmed words between commas; blank ones do not count. -/
def words (s : String) : List String :=
  ((s.toList.splitOn ',').map fun cs => Text.trim (String.ofList cs)).filter (· != "")

def version (value : Option String) : Except SettingsError Int :=
  match value with
  | none => .ok defaultVersion
  | some s =>
    if Text.trim s == "" then .ok defaultVersion
    else
      match Number.decimal? s.toList with
      | some n => .ok n
      | none => .error ⟨s⟩

def ofEnvironment (env : Environment) : Except SettingsError Settings :=
  (version env.astVersion).map fun astVersion =>
    { astVersion
      trace := (env.trace.map isOn).getD false
      nameKinds := (env.nameKinds.map words).getD ["name"] }

end Settings

end SyntaxCursor
