import SyntaxCursor.Number.Integer
import SyntaxCursor.Text.Blank

/-!
# Target versions

The shape of an abstract tree depends on a target version. A request may name one by an
integer, by its text, or not at all; only the supported integers are accepted in the end.
-/
namespace SyntaxCursor

/-- The versions that a tree can be made for. -/
def supportedVersions : List Int := [50, 60, 70, 80, 85, 90, 100]

/-- The version used if none is asked for. -/
def defaultVersion : Int := 100

/-- What may be given in the place of a version. -/
inductive VersionRequest where
  | absent
  | flag (b : Bool)
  | number (n : Int)
  | text (s : String)
  deriving DecidableEq, Repr, Inhabited

namespace VersionRequest

/-- How a request is quoted in messages. -/
def toText : VersionRequest → String
  | absent => "None"
  | flag true => "True"
  | flag false => "False"
  | number n => Number.integerText n
  | text s => s

/-- The supported version that is asked for by its integer. -/
def supported? : VersionRequest → Option Int
  | number n => if supportedVersions.contains n then some n else none
  | _ => none

theorem supported?_mem {v : VersionRequest} {n : Int} (h : v.supported? = some n) :
    n ∈ supportedVersions := by
  cases v <;> simp [supported?] at h
  obtain ⟨h, rfl⟩ := h
  exact h

end VersionRequest

/-- A version was asked for that no tree can be made for. -/
structure UnsupportedVersion where
  requested : VersionRequest
  deriving DecidableEq, Repr

def UnsupportedVersion.message (e : UnsupportedVersion) : String :=
  "Unexpected version: want " ++ ", ".intercalate (supportedVersions.map Number.integerText) ++
    ", got " ++ e.requested.toText

/-- The supported version that a request means: the default one if it names none, otherwise
the one that its text is a numeral of. -/
def VersionRequest.normalize (v : VersionRequest) : Except UnsupportedVersion Int :=
  if v = .absent then .ok defaultVersion
  else
    match Number.decimal? (Text.trim v.toText).toList with
    | some n => if supportedVersions.contains n then .ok n else .error ⟨v⟩
    | none => .error ⟨v⟩

end SyntaxCursor
