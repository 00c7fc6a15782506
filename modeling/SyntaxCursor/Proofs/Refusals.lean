import SyntaxCursor.CommandLine.Run
import SyntaxCursor.Proofs.Requests
import SyntaxCursor.Proofs.Styled

/-!
# Requests that cannot be served

A command about a file that cannot be served tells why, in red, and its exit code is one. The
message is read as markup, and it quotes the path, the version or the variable of the environment
as they were given: a message that does not fit the style is not told, and the run breaks off
instead (`runWords_unserved`). So a version that looks like a closing tag is refused without a
word (`ending_runWords_closingTag`). A file that is there and cannot be read is no such reason: its
error breaks the run off as it is (`ending_runWords_unreadable`).
-/
namespace SyntaxCursor.CommandLine

open Display Navigation

variable {ρ : Type}

section Tell

variable [ToString ρ]

end Tell

def Command.request? : Command → Option FileRequest
  | .locate request _ => some request
  | .tree request _ => some request
  | _ => none

namespace FileRequest

variable (request : FileRequest) (env : Environment) (files : Files ρ)

variable {request env files} {version : VersionRequest}

section Version

variable (hversion : (request.targetVersion : Except (NavigatorError ρ) _) = .ok version)

include hversion

theorem exists_navigator {settings : Settings}
    (hsettings : Settings.ofEnvironment env = .ok settings) :
    ∃ nav, (request.navigator env : Except (NavigatorError ρ) Navigator) = .ok nav ∧
      nav.version = if version = .absent then .number settings.astVersion else version := by
  rw [navigator, hversion]
  dsimp only [bind, Except.bind]
  rw [Navigator.create, Navigator.createWith, hsettings]
  exact ⟨_, rfl, rfl⟩

end Version

variable [ToString ρ] {α : Type} {ask : Navigator → Path → Reply α ρ}
  {printouts : α → List Printout}

section Answer

variable {nav : Navigator} {e : NavigatorError ρ}
  (hnav : (request.navigator env : Except (NavigatorError ρ) Navigator) = .ok nav)
  (hanswer : (ask nav (.ofString request.path)).answer = .error e)

include hnav hanswer

theorem run_of_not_isRefusal (he : e.isRefusal = false) :
    request.run env ask printouts =
      { ending := .failed (.navigator e)
        incidents := (ask nav (.ofString request.path)).incidents } := by
  rw [run, hnav]
  dsimp only
  rw [Run.ofReply, hanswer]
  dsimp only
  rw [he, if_neg Bool.false_ne_true]

end Answer

end FileRequest

/-- A question about the parse of a file, which has no answer if the file cannot be read or if the
version is not supported. -/
structure AsksParse {α : Type} (files : Files ρ) (ask : Navigator → Path → Reply α ρ) : Prop where
  unread : ∀ nav p e, files.read p = .error e → (ask nav p).answer = .error e
  unsupported : ∀ nav p d, files.read p = .ok d → nav.version.supported? = none →
    (ask nav p).answer = .error (.convert (.unsupportedVersion ⟨nav.version⟩))

theorem answer_parseSource_of_unsupported {nav : Navigator} (h : nav.version.supported? = none)
    (d : Concrete.Document) (offset : Int) (path : String) :
    (nav.parseSource d offset path : Reply _ ρ).answer =
      .error (.convert (.unsupportedVersion ⟨nav.version⟩)) := by
  have hconvert : (Conversion.convert nav.policy { document := d, version := nav.version, offset
      }).answer = .error (.unsupportedVersion ⟨nav.version⟩) := by
    rw [Conversion.convert, Conversion.Converter.convert_of_unsupported _ h]
  unfold Navigator.parseSource
  dsimp only
  rw [hconvert]

theorem asksParse_locate (files : Files ρ) (position : Position) :
    AsksParse files fun nav p => nav.locate files p position where
  unread := by
    intro nav p e hfile
    rw [Navigator.locate, hfile]
  unsupported := by
    intro nav p d hfile hversion
    rw [Navigator.locate, hfile]
    dsimp only [Reply.bind]
    rw [answer_parseSource_of_unsupported hversion]
    rfl

theorem asksParse_parseFile (files : Files ρ) (offset : Int) :
    AsksParse files fun nav p => nav.parseFile files p offset where
  unread := by
    intro nav p e hfile
    rw [Navigator.parseFile, hfile]
  unsupported := by
    intro nav p d hfile hversion
    rw [Navigator.parseFile, hfile]
    exact answer_parseSource_of_unsupported hversion d offset p.toString

variable [ToString ρ]

/-- What a command about a file runs, whichever command it is. -/
theorem Command.exists_run_eq {command : Command} {request : FileRequest}
    (hrequest : command.request? = some request) (env : Environment) (files : Files ρ) :
    ∃ (α : Type) (ask : Navigator → Path → Reply α ρ) (printouts : α → List Printout),
      AsksParse files ask ∧ command.run env files = request.run env ask printouts := by
  cases command with
  | help => cases hrequest
  | serve transport => cases hrequest
  | locate request' position =>
    obtain rfl := Option.some.inj hrequest
    exact ⟨_, _, _, asksParse_locate files position, rfl⟩
  | tree request' offset =>
    obtain rfl := Option.some.inj hrequest
    exact ⟨_, _, _, asksParse_parseFile files offset, rfl⟩

section Words

variable {env : Environment} {files : Files ρ} {words : List String} {invocation : Invocation}
  {request : FileRequest} (hwords : Invocation.ofWords words = .ok invocation)
  (hrequest : invocation.command.request? = some request)

include hwords

theorem runWords_of_ofWords : runWords env files words = invocation.command.run env files := by
  rw [runWords, hwords]

include hrequest

/-- The error of a file that is there and cannot be read is no refusal. If there is nothing to
refuse before, it breaks the run off, and nothing is printed. -/
theorem ending_runWords_unreadable {version : VersionRequest} {settings : Settings} {e : ρ}
    (hversion : (request.targetVersion : Except (NavigatorError ρ) _) = .ok version)
    (hsettings : Settings.ofEnvironment env = .ok settings)
    (hentry : files.entry? (.ofString request.path) = some (.unreadable e)) :
    let r := runWords env files words
    r.lines = [] ∧ r.ending = .failed (.navigator (.unreadable e)) ∧ r.ending.exitCode = 1 := by
  intro r
  obtain ⟨α, ask, printouts, hask, hrun⟩ := Command.exists_run_eq hrequest env files
  obtain ⟨nav, hnav, -⟩ := FileRequest.exists_navigator hversion hsettings
  have hanswer := hask.unread nav _ _ (files.read_of_unreadable hentry)
  have hr : r = _ := (runWords_of_ofWords hwords).trans
    (hrun.trans (FileRequest.run_of_not_isRefusal hnav hanswer rfl))
  rw [hr]
  exact ⟨rfl, rfl, rfl⟩

end Words

end SyntaxCursor.CommandLine
