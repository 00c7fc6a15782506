import SyntaxCursor.Proofs.Bearer

/-!
# The life of a converter

Between its requests a converter may be given another policy, and its selection slot may be
filled from outside. Whatever has happened before, a request for a version that is not supported
is rejected and changes nothing, and each other request is answered as by a fresh converter with
the current policy and leaves the slot empty (`convert_of_run`). A request with a text is answered
as the one with the bytes of the text; a text without a UTF-8 form changes nothing either
(`convertText_eq`).
-/
namespace SyntaxCursor.Conversion

open Abstract Concrete

variable {π : Type} [SelectionPolicy π]

/-- Something that is done with a converter. -/
inductive Step (π : Type := NamePolicy) where
  | setPolicy (policy : π)
  /-- The selection slot is filled from outside. -/
  | inject (s : Selection)
  | request (r : Request)
  | requestText (r : TextRequest)

def Step.policy? : Step π → Option π
  | setPolicy policy => some policy
  | _ => none

/-- The last policy set by some steps, or the initial one if none is. -/
def currentPolicy (initial : π) (steps : List (Step π)) : π :=
  (steps.filterMap Step.policy?).getLastD initial

omit [SelectionPolicy π] in
theorem currentPolicy_cons (initial : π) (step : Step π) (steps : List (Step π)) :
    currentPolicy initial (step :: steps) =
      currentPolicy (step.policy?.getD initial) steps := by
  cases step with
  | setPolicy policy => exact List.getLastD_cons ..
  | inject s => rfl
  | request r => rfl
  | requestText r => rfl

/-- Whether a request names one of the supported integers. -/
def Request.IsSupported (r : Request) : Prop := ∃ n ∈ supportedVersions, r.version = .number n

theorem Request.isSupported_iff {r : Request} :
    r.IsSupported ↔ ∃ version, r.version.supported? = some version := by
  constructor
  · rintro ⟨n, hn, hversion⟩
    exact ⟨n, by rw [hversion, supported?_number hn]⟩
  · rintro ⟨version, h⟩
    refine ⟨version, VersionRequest.supported?_mem h, ?_⟩
    cases hversion : r.version with
    | number n =>
      rw [hversion, VersionRequest.supported?] at h
      rw [Option.some.inj (Option.ite_none_right_eq_some.1 h).2]
    | absent | flag b | text s => simp [hversion, VersionRequest.supported?] at h

/-- The errors noted by a request; its other notices trace it. -/
def Outcome.errors (o : Outcome π) : List Incident :=
  (o.notices.map (·.incident)).filter fun i => !i.isTrace

/-- A request is rejected: it is not parsed, nothing is noted, and nothing changes. -/
structure Rejected (c : Converter π) (r : Request) : Prop where
  answer_eq : (c.convert r).answer = .error (.unsupportedVersion ⟨r.version⟩)
  parses_eq : (c.convert r).parses = 0
  notices_eq : (c.convert r).notices = []
  converter_eq : (c.convert r).converter = c

/-- A request is served as by a fresh converter with a given policy: it is parsed once and
leaves the slot empty, and its only error is that the slot was not empty before. It fails if
the parser does, and has a result otherwise. -/
structure Served (policy : π) (c : Converter π) (r : Request) : Prop where
  answer_eq : (c.convert r).answer = (convert policy r).answer
  parses_eq : (c.convert r).parses = 1
  slot_eq : (c.convert r).converter.slot = none
  errors_eq : (c.convert r).errors = if c.slot.isSome then [.staleSelection] else []
  answer_of_failure : ∀ reason ∈ r.parserFailure,
    (c.convert r).answer = .error (.parserFailure reason)
  exists_result : r.parserFailure = none → ∃ result, (c.convert r).answer = .ok result

section Convert

variable (c : Converter π) {r : Request}

theorem rejected_of_not_isSupported (h : ¬ r.IsSupported) : Rejected c r := by
  have hnone : r.version.supported? = none := by
    rw [Option.eq_none_iff_forall_ne_some]
    intro version hversion
    exact h (Request.isSupported_iff.2 ⟨version, hversion⟩)
  have hconvert : c.convert r =
      { answer := .error (.unsupportedVersion ⟨r.version⟩), converter := c } :=
    Converter.convert_of_unsupported c hnone
  constructor <;> rw [hconvert]

variable {version : Int} (hv : r.version.supported? = some version)

include hv

/-- Of what the slot held before a request, nothing but a notice is left. -/
theorem convert_eq_fresh :
    c.convert r = { convert c.policy r with
      notices := c.staleNotices ++ (convert c.policy r).notices } := by
  rw [convert]
  cases hp : r.parserFailure with
  | some reason =>
    rw [Converter.convert_of_parserFailure c hv hp, Converter.convert_of_parserFailure _ hv hp]
    rfl
  | none =>
    rw [Converter.convert_of_parsed c hv hp, Converter.convert_of_parsed _ hv hp]
    rfl

/-- All that a fresh converter notes belongs to the trace. -/
theorem isTrace_of_mem_fresh {policy : π} {notice : Notice}
    (h : notice ∈ (convert policy r).notices) : notice.incident.isTrace = true := by
  rw [convert] at h
  cases hp : r.parserFailure with
  | some reason =>
    rw [Converter.convert_of_parserFailure _ hv hp] at h
    obtain rfl : notice = searchingAt _ := List.mem_singleton.1 h
    rfl
  | none =>
    rw [Converter.convert_of_parsed _ hv hp] at h
    dsimp only at h
    rw [noticesAt, enforceSingle_buildAt, List.map_nil, List.append_nil] at h
    rcases List.mem_cons.1 h with rfl | h
    · rfl
    rcases List.mem_cons.1 h with rfl | h
    · rfl
    obtain ⟨mark, _, rfl⟩ := List.mem_map.1 h
    rfl

theorem errors_fresh (policy : π) : (convert policy r).errors = [] := by
  rw [Outcome.errors, List.filter_eq_nil_iff]
  intro i hi
  obtain ⟨notice, hnotice, rfl⟩ := List.mem_map.1 hi
  simp [isTrace_of_mem_fresh hv hnotice]

theorem served_of_supported? : Served c.policy c r where
  answer_eq := by rw [convert_eq_fresh c hv]
  parses_eq := by
    cases hp : r.parserFailure with
    | some reason => rw [Converter.convert_of_parserFailure c hv hp]
    | none => rw [Converter.convert_of_parsed c hv hp]
  slot_eq := by
    cases hp : r.parserFailure with
    | some reason => rw [Converter.convert_of_parserFailure c hv hp]
    | none => rw [Converter.convert_of_parsed c hv hp]
  errors_eq := by
    have hfresh := errors_fresh hv c.policy
    rw [Outcome.errors] at hfresh
    rw [convert_eq_fresh c hv, Outcome.errors, List.map_append, List.filter_append, hfresh,
      List.append_nil, Converter.staleNotices]
    cases c.slot <;> rfl
  answer_of_failure := by
    intro reason hp
    rw [Converter.convert_of_parserFailure c hv hp]
  exists_result := fun hp => ⟨_, Converter.answer_convert c hv hp⟩

end Convert

theorem TextRequest.version_encoded {r : TextRequest} {request : Request}
    (h : r.encoded = .ok request) : request.version = r.version := by
  rw [encoded] at h
  cases htext : Utf8.encodeText r.text with
  | error e =>
    rw [htext] at h
    cases h
  | ok source =>
    rw [htext] at h
    obtain rfl := Except.ok.inj h
    rfl

/-- A text has a UTF-8 form just if no surrogate is in it. -/
theorem TextRequest.exists_encoded_iff {r : TextRequest} :
    (∃ request, r.encoded = .ok request) ↔ ∀ p ∈ r.text, p.isSurrogate = false := by
  rw [encoded, Utf8.exists_map_eq_ok_iff]
  exact Utf8.exists_encodeFrom_iff 0 r.text

/-- A request with a text is looked at in this order: its version, its text, and then the bytes of
the text, which bring what they bring in a request of their own. -/
theorem convertText_eq (c : Converter π) (r : TextRequest) :
    c.convertText r =
      match r.version.supported?, r.encoded with
      | none, _ =>
        { answer := .error (.convert (.unsupportedVersion ⟨r.version⟩)), converter := c }
      | some _, .error e => { answer := .error (.encoding e), converter := c }
      | some _, .ok request =>
        let o := c.convert request
        { o with answer := o.answer.mapError .convert } := by
  rw [Converter.convertText]
  cases hv : r.version.supported? with
  | none => rfl
  | some version =>
    cases hencoded : r.encoded with
    | error e => rfl
    | ok request =>
      have hversion := TextRequest.version_encoded hencoded
      dsimp only
      rw [Converter.convert, Converter.convertTracing_of_supported c () (hversion ▸ hv)]

namespace Converter

def after (c : Converter π) : Step π → Converter π
  | .setPolicy policy => { c with policy }
  | .inject s => { c with slot := some s }
  | .request r => (c.convert r).converter
  | .requestText r => (c.convertText r).converter

def run (c : Converter π) (steps : List (Step π)) : Converter π := steps.foldl after c

/-- A request keeps the policy, and it keeps an empty slot empty. -/
theorem converter_convert (c : Converter π) (r : Request) :
    (c.convert r).converter = c ∨ (c.convert r).converter = { c with slot := none } := by
  by_cases hr : r.IsSupported
  · obtain ⟨version, hv⟩ := Request.isSupported_iff.1 hr
    right
    cases hp : r.parserFailure with
    | some reason => rw [convert_of_parserFailure c hv hp]
    | none => rw [convert_of_parsed c hv hp]
  · exact Or.inl (rejected_of_not_isSupported c hr).converter_eq

theorem converter_convertText (c : Converter π) (r : TextRequest) :
    (c.convertText r).converter = c ∨ (c.convertText r).converter = { c with slot := none } := by
  rw [convertText_eq]
  cases r.version.supported? with
  | none => exact Or.inl rfl
  | some version =>
    cases r.encoded with
    | error e => exact Or.inl rfl
    | ok request => exact converter_convert c request

theorem policy_after (c : Converter π) (step : Step π) :
    (c.after step).policy = step.policy?.getD c.policy := by
  cases step with
  | setPolicy policy => rfl
  | inject s => rfl
  | request r => rcases converter_convert c r with h | h <;> rw [after, h] <;> rfl
  | requestText r => rcases converter_convertText c r with h | h <;> rw [after, h] <;> rfl

theorem slot_after {c : Converter π} {step : Step π} (hc : c.slot = none)
    (hstep : ∀ s, step ≠ .inject s) : (c.after step).slot = none := by
  cases step with
  | setPolicy policy => exact hc
  | inject s => exact absurd rfl (hstep s)
  | request r =>
    rcases converter_convert c r with h | h
    · rw [after, h, hc]
    · rw [after, h]
  | requestText r =>
    rcases converter_convertText c r with h | h
    · rw [after, h, hc]
    · rw [after, h]

theorem policy_run (c : Converter π) (steps : List (Step π)) :
    (c.run steps).policy = currentPolicy c.policy steps := by
  induction steps generalizing c with
  | nil => rfl
  | cons step steps ih =>
    rw [currentPolicy_cons, ← policy_after]
    exact ih (c.after step)

/-- Without injections the slot stays empty. -/
theorem slot_run {c : Converter π} {steps : List (Step π)} (hc : c.slot = none)
    (hsteps : ∀ s, Step.inject s ∉ steps) : (c.run steps).slot = none := by
  induction steps generalizing c with
  | nil => exact hc
  | cons step steps ih =>
    have hstep : ∀ s, step ≠ .inject s := fun s h => hsteps s (h ▸ List.mem_cons_self)
    exact ih (slot_after hc hstep) fun s h => hsteps s (List.mem_cons_of_mem step h)

end Converter

/-- What a request is answered with has no history. After any steps of a converter, a request
that does not name a supported integer is rejected, and each other one is served as by a fresh
converter with the policy set last. As long as nothing fills it from outside, the slot is empty
between the steps. -/
theorem convert_of_run (policy : π) (before : List (Step π)) (r : Request) :
    let c := Converter.run { policy } before
    (¬ r.IsSupported → Rejected c r) ∧
      (r.IsSupported → Served (currentPolicy policy before) c r) ∧
      ((∀ s, Step.inject s ∉ before) → c.slot = none) := by
  intro c
  refine ⟨rejected_of_not_isSupported c, ?_, fun h => Converter.slot_run rfl h⟩
  intro hr
  obtain ⟨version, hv⟩ := Request.isSupported_iff.1 hr
  have hpolicy : c.policy = currentPolicy policy before := Converter.policy_run _ before
  rw [← hpolicy]
  exact served_of_supported? c hv

/-- A slot that is filled from outside outlives a rejected request, and the next one clears it. -/
theorem convert_of_run_propertyStatement :
    let rejected : Request :=
      { document := propertyStatement, version := .flag true, offset := 4 }
    let r : Request := { document := propertyStatement, version := .number 80, offset := 4 }
    let before : List Step :=
      [.setPolicy ⟨[]⟩, .inject { index := some 3 }, .request rejected]
    let c := Converter.run { policy := .standard } before
    c.slot = some { index := some 3 } ∧ Rejected c rejected ∧
      (c.convert r).errors = [.staleSelection] ∧ (c.convert r).converter.slot = none ∧
      ∃ result, (convert ⟨[]⟩ r).answer = .ok result ∧ (c.convert r).answer = .ok result := by
  intro rejected r before c
  have hrejected : ¬ rejected.IsSupported := by
    rintro ⟨n, _, hversion⟩
    contradiction
  have hserved : Served ⟨[]⟩ c r :=
    (convert_of_run .standard before r).2.1 ⟨80, by decide, rfl⟩
  obtain ⟨result, hresult⟩ := hserved.exists_result rfl
  exact ⟨rfl, (convert_of_run .standard before rejected).1 hrejected, hserved.errors_eq,
    hserved.slot_eq, result, hserved.answer_eq.symm.trans hresult, hresult⟩

end SyntaxCursor.Conversion
