import Mathlib.Data.List.Basic
import Mathlib.Data.List.Induction
import SyntaxCursor.Navigation.Tools
import SyntaxCursor.Proofs.Analyzers
import SyntaxCursor.Proofs.Overlay

/-!
# Tools and their navigator

The tools of a server answer as its navigator does, whichever way a call has come by its version:
a navigator that is made for the version of a call is the server's own one but for this version
(`navigatorFor_of_effective?`). Between calls nothing is kept but what the analyzers remember, and
this can show in the kind of a located node alone (`unname_serve`); if they do not go by what they
remember, in nothing at all (`serve_of_isSteady`). Both tools tell of one and the same parse
(`run_agrees`).
-/
namespace SyntaxCursor.Navigation

open Abstract Concrete Conversion

theorem normalize_number {version : Int} (h : version ∈ supportedVersions) :
    (VersionRequest.number version).normalize = .ok version := by
  have hall : ∀ v ∈ supportedVersions, (VersionRequest.number v).normalize = .ok v := by
    decide +kernel
  exact hall version h

theorem mem_of_normalize {request : VersionRequest} {version : Int}
    (h : request.normalize = .ok version) : version ∈ supportedVersions := by
  unfold VersionRequest.normalize at h
  split at h
  · obtain rfl := Except.ok.inj h
    decide
  · split at h
    · split at h
      case isTrue hmem =>
        obtain rfl := Except.ok.inj h
        exact List.contains_iff_mem.1 hmem
      case isFalse => cases h
    · cases h

section Version

variable {π ρ : Type}

def Navigator.targeting (nav : Navigator π) (version : Int) : Navigator π :=
  { nav with version := .number version }

theorem targeting_of_supported? {nav : Navigator π} {version : Int}
    (h : nav.version.supported? = some version) : nav.targeting version = nav := by
  obtain ⟨request, policy, tracing, analyzers⟩ := nav
  have hrequest : request = .number version := by
    cases request <;> simp_all [VersionRequest.supported?]
  rw [hrequest]
  rfl

/-- The supported version that a call is answered for: that of the navigator if the call names
none. -/
def Server.effective? (server : Server π) (request : VersionRequest) : Option Int :=
  if request = .absent then server.navigator.version.supported? else request.normalize.toOption

variable {server : Server π} {settings : Settings} {request : VersionRequest} {version : Int}

theorem mem_of_effective? (h : server.effective? request = some version) :
    version ∈ supportedVersions := by
  unfold Server.effective? at h
  split at h
  · exact VersionRequest.supported?_mem h
  · cases hnormal : request.normalize with
    | error e =>
      rw [hnormal] at h
      contradiction
    | ok v =>
      rw [hnormal] at h
      obtain rfl := Option.some.inj h
      exact mem_of_normalize hnormal

/-- A navigator that is made for a call differs from that of the server in the version alone. -/
theorem navigatorFor_of_effective?
    (hsettings : Settings.ofEnvironment server.environment = .ok settings)
    (h : server.effective? request = some version) :
    (server.navigatorFor request : Except (NavigatorError ρ) (Navigator π)) =
      .ok (server.navigator.targeting version) := by
  unfold Server.effective? at h
  unfold Server.navigatorFor
  split at h
  case isTrue habsent => rw [if_pos habsent, targeting_of_supported? h]
  case isFalse hgiven =>
    rw [if_neg hgiven]
    cases hnormal : request.normalize with
    | error e =>
      rw [hnormal] at h
      contradiction
    | ok v =>
      rw [hnormal] at h
      obtain rfl := Option.some.inj h
      dsimp only
      rw [Navigator.createWith, hsettings]
      rfl

/-- Whatever the version of a call, its navigator has the analyzers of the server. -/
theorem analyzers_navigatorFor {nav : Navigator π}
    (h : (server.navigatorFor request : Except (NavigatorError ρ) (Navigator π)) = .ok nav) :
    nav.analyzers = server.navigator.analyzers := by
  unfold Server.navigatorFor Navigator.createWith at h
  split at h
  · obtain rfl := Except.ok.inj h
    rfl
  · split at h
    · contradiction
    · cases hsettings : Settings.ofEnvironment server.environment with
      | error e =>
        rw [hsettings] at h
        contradiction
      | ok settings =>
        rw [hsettings] at h
        obtain rfl := Except.ok.inj h
        rfl

end Version

/-- An analyzer that never gives up. -/
def Analyzer.IsHarmless (a : Analyzer) : Prop :=
  ∀ before call, (a.react before call).failure = none

/-- An analyzer that does not go by what it remembers. -/
def Analyzer.IsSteady (a : Analyzer) : Prop :=
  ∀ before before' call, a.react before call = a.react before' call

theorem failure_analyze {analyzers : List Analyzer} (h : ∀ a ∈ analyzers, a.IsHarmless)
    (path : String) (before : List Call) (tree : Node) :
    (analyze analyzers path before tree).failure = none := by
  obtain ⟨vs, hvs⟩ := reaches_analyze analyzers path before tree
  rw [Option.eq_none_iff_forall_ne_some]
  intro reason hreason
  obtain ⟨us, v, rfl, -, hv⟩ := hvs.made.stopped reason hreason
  have hdue := hvs.made.mem_due (List.mem_append_right us (List.mem_singleton_self v))
  obtain ⟨m, -, hm⟩ := List.mem_flatMap.1 hdue
  obtain ⟨a, ha, heq⟩ := List.mem_map.1 hm
  obtain ⟨-, rfl⟩ := Prod.mk.inj heq
  rw [(hvs.made.follows us v [] rfl).edit_eq, h v.analyzer ha] at hv
  contradiction

/-- What such analyzers leave of a tree does not depend on the calls made before. -/
theorem analyze_of_isSteady {analyzers : List Analyzer} (h : ∀ a ∈ analyzers, a.IsSteady)
    (path : String) (before before' : List Call) (tree : Node) :
    analyze analyzers path before tree = analyze analyzers path before' tree := by
  have hconsult : ∀ (s : Analysis) (place : Nat), ∀ a ∈ analyzers,
      s.consult path before place a = s.consult path before' place a := by
    intro s place a ha
    have hreact : ∀ call, a.react (before ++ s.calls) call = a.react (before' ++ s.calls) call :=
      h a ha _ _
    simp only [Analysis.consult, hreact]
  have hvisit : ∀ (s : Analysis) (place : Nat),
      s.visit path before place analyzers = s.visit path before' place analyzers := by
    intro s place
    rw [Analysis.visit, Analysis.visit, List.foldl_ext _ _ s fun s a ha => hconsult s place a ha]
  simp only [analyze, hvisit]

section Ask

variable {π ρ : Type} [SelectionPolicy π] {nav : Navigator π}

section Harmless

variable (h : ∀ a ∈ nav.analyzers, a.IsHarmless)

include h

/-- Whether there is a result is decided by the conversion alone, and of a result nothing but its
tree depends on the calls made before. -/
theorem answer_parseSource_of_harmless (d : Document) (offset : Int) (path : String)
    (before : List Call) :
    ∃ edits, (nav.parseSource d offset path before : Reply Result ρ).answer =
      match (Conversion.convert nav.policy { document := d, version := nav.version, offset
        }).answer with
      | .error e => .error (.convert e)
      | .ok r => .ok { r with tree := editTree edits r.tree } := by
  unfold Navigator.parseSource
  dsimp only
  cases (Conversion.convert nav.policy { document := d, version := nav.version, offset
    }).answer with
  | error e => exact ⟨fun _ => [], rfl⟩
  | ok r =>
    obtain ⟨vs, hvs⟩ := reaches_analyze nav.analyzers path before r.tree
    dsimp only
    rw [failure_analyze h, hvs.tree_eq]
    exact ⟨editsAt vs, rfl⟩

theorem diagnostics_parseFile (files : Files ρ) (p : Path) (offset : Int)
    (before before' : List Call) :
    (nav.parseFile files p offset before).answer.map (·.diagnostics) =
      (nav.parseFile files p offset before').answer.map (·.diagnostics) := by
  unfold Navigator.parseFile
  cases files.read p with
  | error e => rfl
  | ok d =>
    obtain ⟨edits, hanswer⟩ := answer_parseSource_of_harmless h d offset p.toString before
    obtain ⟨edits', hanswer'⟩ := answer_parseSource_of_harmless h d offset p.toString before'
    dsimp only
    rw [hanswer, hanswer']
    cases (Conversion.convert nav.policy _).answer <;> rfl

/-- A node is located at the same place, whatever was called before. -/
theorem unname_locate (files : Files ρ) (p : Path) (position : Position)
    (before before' : List Call) :
    (nav.locate files p position before).answer.map
        (·.map fun (node, location) => (node.info.unname, location)) =
      (nav.locate files p position before').answer.map
        (·.map fun (node, location) => (node.info.unname, location)) := by
  unfold Navigator.locate
  cases files.read p with
  | error e => rfl
  | ok d =>
    obtain ⟨edits, hanswer⟩ :=
      answer_parseSource_of_harmless h d (position.toOffset d.source) p.toString before
    obtain ⟨edits', hanswer'⟩ :=
      answer_parseSource_of_harmless h d (position.toOffset d.source) p.toString before'
    dsimp only [Reply.bind]
    rw [hanswer, hanswer']
    cases (Conversion.convert nav.policy _).answer with
    | error e => rfl
    | ok r =>
      refine map_unname_mapM_withLocation ?_ p d
      rw [unname_selectedNode_edited, unname_selectedNode_edited]

end Harmless

section Supported

variable {version : Int} (hv : nav.version.supported? = some version)
  (h : ∀ a ∈ nav.analyzers, a.IsHarmless)

include hv h

/-- With such analyzers every parse has a result. What it reports is the same for every cursor. -/
theorem exists_parseSource_of_harmless (d : Document) (offset : Int) (path : String)
    (before : List Call) :
    ∃ r, (nav.parseSource d offset path before : Reply Result ρ).answer = .ok r ∧
      r.diagnostics = treeReports d.tree := by
  obtain ⟨edits, hanswer⟩ := answer_parseSource_of_harmless h d offset path before
  have hconvert : (Conversion.convert nav.policy { document := d, version := nav.version, offset
      }).answer = .ok _ := Converter.answer_convert _ hv rfl
  rw [hconvert] at hanswer
  exact ⟨_, hanswer, rfl⟩

theorem exists_parseFile_of_harmless {files : Files ρ} {p : Path} {d : Document}
    (hfile : files.find? p = some d) (offset : Int) (before : List Call) :
    ∃ r, (nav.parseFile files p offset before).answer = .ok r ∧
      r.diagnostics = treeReports d.tree := by
  unfold Navigator.parseFile
  rw [files.read_of_find? hfile]
  exact exists_parseSource_of_harmless hv h d offset p.toString before

/-- In a file that can be read a node can be located, or there is none, or its location is missing
for want of a URI. -/
theorem answer_locate_of_harmless {files : Files ρ} {p : Path} {d : Document}
    (hfile : files.find? p = some d) (position : Position) (before : List Call) :
    (∃ found, (nav.locate files p position before).answer = .ok found) ∨
      p.hasNull = true ∧ (nav.locate files p position before).answer = .error .nullInPath := by
  obtain ⟨r, hanswer, -⟩ := exists_parseSource_of_harmless (ρ := ρ) hv h d
    (position.toOffset d.source) p.toString before
  have hlocate : (nav.locate files p position before).answer =
      r.selectedNode.mapM (Navigator.withLocation p d) := by
    unfold Navigator.locate
    rw [files.read_of_find? hfile]
    dsimp only [Reply.bind]
    rw [hanswer]
    rfl
  rw [hlocate]
  cases r.selectedNode with
  | none => exact Or.inl ⟨none, rfl⟩
  | some n =>
    simp only [Option.mapM_some, Navigator.withLocation, Path.toUri?]
    cases p.hasNull with
    | false => exact Or.inl ⟨_, rfl⟩
    | true => exact Or.inr ⟨rfl, rfl⟩

end Supported

section Steady

variable (h : ∀ a ∈ nav.analyzers, a.IsSteady)

include h

theorem parseSource_of_isSteady (d : Document) (offset : Int) (path : String)
    (before before' : List Call) :
    (nav.parseSource d offset path before : Reply Result ρ) =
      nav.parseSource d offset path before' := by
  unfold Navigator.parseSource
  simp only [analyze_of_isSteady h path before before']

theorem parseFile_of_isSteady (files : Files ρ) (p : Path) (offset : Int)
    (before before' : List Call) :
    nav.parseFile files p offset before = nav.parseFile files p offset before' := by
  unfold Navigator.parseFile
  simp only [parseSource_of_isSteady h _ _ _ before before']

theorem locate_of_isSteady (files : Files ρ) (p : Path) (position : Position)
    (before before' : List Call) :
    nav.locate files p position before = nav.locate files p position before' := by
  unfold Navigator.locate
  simp only [parseSource_of_isSteady h _ _ _ before before']

end Steady

end Ask

/-- What a tool has answered, but for the kind of a located node. -/
def ToolResult.unname : ToolResult → ToolResult
  | .located (.found (info, location)) => .located (.found (info.unname, location))
  | r => r

section Call

variable {π ρ : Type}

theorem map_answer_map {α β γ : Type} (r : Reply α ρ) (f : α → β) (g : β → γ) :
    (r.map f).answer.map g = r.answer.map fun a => g (f a) := by
  obtain ⟨answer, calls, incidents⟩ := r
  cases answer <;> rfl

variable [ToString ρ]

/-- What is not refused needs no explanation. -/
theorem answer_explain_map {α β : Type} {r : Reply α ρ} (f : α → ToolAnswer β)
    (h : ∀ e, r.answer = .error e → e.isRefusal = false) :
    (Server.explain (r.map f)).answer = r.answer.map f := by
  unfold Server.explain Reply.map
  dsimp only
  cases hanswer : r.answer with
  | ok value => rfl
  | error e =>
    have he : e.isRefusal = false := h e hanswer
    change (if e.isRefusal then _ else _ : Reply (ToolAnswer β) ρ).answer = _
    rw [he, if_neg Bool.false_ne_true]

/-- Refusals are explained in the same way whatever the values of answers are. -/
theorem map_answer_explain {α β γ : Type} {r r' : Reply α ρ} (f : α → ToolAnswer β)
    (g : α → γ) (u : ToolAnswer β → ToolResult)
    (hf : ∀ a a', g a = g a' → u (f a) = u (f a')) (h : r.answer.map g = r'.answer.map g) :
    (Server.explain (r.map f)).answer.map u = (Server.explain (r'.map f)).answer.map u := by
  obtain ⟨answer, calls, incidents⟩ := r
  obtain ⟨answer', calls', incidents'⟩ := r'
  change answer.map g = answer'.map g at h
  cases answer with
  | error e =>
    cases answer' with
    | ok a => cases h
    | error e' =>
      obtain rfl : e = e' := Except.error.inj h
      change (if e.isRefusal then _ else _ : Reply (ToolAnswer β) ρ).answer.map u =
        (if e.isRefusal then _ else _ : Reply (ToolAnswer β) ρ).answer.map u
      cases e.isRefusal <;> rfl
  | ok a =>
    cases answer' with
    | error e => cases h
    | ok a' => exact congrArg Except.ok (hf a a' (Except.ok.inj h))

variable {server : Server π}

/-- Tools that agree on every navigator with the analyzers of a server agree when it calls them. -/
theorem call_congr {α : Type} {tool tool' : Navigator π → Reply (ToolAnswer α) ρ}
    (h : ∀ nav, nav.analyzers = server.navigator.analyzers → tool nav = tool' nav)
    (version : VersionRequest) : server.call version tool = server.call version tool' := by
  unfold Server.call
  cases hnav : (server.navigatorFor version : Except (NavigatorError ρ) (Navigator π)) with
  | error e => rfl
  | ok nav =>
    dsimp only
    rw [h nav (analyzers_navigatorFor hnav)]

/-- The same for what is seen of their answers. -/
theorem map_answer_call_congr {α : Type} {tool tool' : Navigator π → Reply (ToolAnswer α) ρ}
    {u : ToolAnswer α → ToolResult}
    (h : ∀ nav, nav.analyzers = server.navigator.analyzers →
      (Server.explain (tool nav)).answer.map u = (Server.explain (tool' nav)).answer.map u)
    (version : VersionRequest) :
    (server.call version tool).answer.map u = (server.call version tool').answer.map u := by
  unfold Server.call
  cases hnav : (server.navigatorFor version : Except (NavigatorError ρ) (Navigator π)) with
  | error e => rfl
  | ok nav => exact h nav (analyzers_navigatorFor hnav)

variable [SelectionPolicy π] {files : Files ρ}

/-- A call is answered through the navigator for its version alone. -/
theorem serve_congr {request request' : VersionRequest}
    (h : (server.navigatorFor request : Except (NavigatorError ρ) (Navigator π)) =
      server.navigatorFor request') (c : ToolCall) (before : List Call) :
    server.serve files (c.withVersion request) before =
      server.serve files (c.withVersion request') before := by
  cases c with
  | locate path position _ =>
    simp only [ToolCall.withVersion, Server.serve, Server.locate, Server.call, h]
  | diagnostics path _ =>
    simp only [ToolCall.withVersion, Server.serve, Server.diagnostics, Server.call, h]

/-- If no analyzer gives up, what the analyzers remember can show in the kind of a located node
alone. -/
theorem unname_serve (hharmless : ∀ a ∈ server.navigator.analyzers, a.IsHarmless) (c : ToolCall)
    (before before' : List Call) :
    (server.serve files c before).answer.map ToolResult.unname =
      (server.serve files c before').answer.map ToolResult.unname := by
  cases c with
  | locate path position version =>
    rw [Server.serve, Server.serve, map_answer_map, map_answer_map]
    refine map_answer_call_congr (fun nav hnav => ?_) version
    rw [← hnav] at hharmless
    refine map_answer_explain _ _ _ ?_ (unname_locate hharmless files _ position before before')
    intro found found' hfound
    cases found with
    | none => cases found' <;> first | rfl | contradiction
    | some found =>
      cases found' with
      | none => contradiction
      | some found' =>
        exact congrArg (fun f : NodeInfo × Location => ToolResult.located (.found f))
          (Option.some.inj hfound)
  | diagnostics path version =>
    rw [Server.serve, Server.serve, map_answer_map, map_answer_map]
    refine map_answer_call_congr (fun nav hnav => ?_) version
    rw [← hnav] at hharmless
    refine map_answer_explain _ _ _ ?_ (diagnostics_parseFile hharmless files _ 0 before before')
    intro r r' hr
    exact congrArg (fun reports => ToolResult.diagnosed (.found reports)) hr

/-- If no analyzer goes by what it remembers, a call is answered as if it were the first. -/
theorem serve_of_isSteady (hsteady : ∀ a ∈ server.navigator.analyzers, a.IsSteady) (c : ToolCall)
    (before before' : List Call) :
    server.serve files c before = server.serve files c before' := by
  cases c with
  | locate path position version =>
    refine congrArg (Reply.map ToolResult.located) (call_congr (fun nav hnav => ?_) version)
    rw [← hnav] at hsteady
    rw [locate_of_isSteady hsteady files _ position before before']
  | diagnostics path version =>
    refine congrArg (Reply.map ToolResult.diagnosed) (call_congr (fun nav hnav => ?_) version)
    rw [← hnav] at hsteady
    rw [parseFile_of_isSteady hsteady files _ 0 before before']

end Call

section Agree

variable {π ρ : Type} [SelectionPolicy π] [ToString ρ] {server : Server π} {files : Files ρ}
  {settings : Settings} {path : String} {request : VersionRequest} {version : Int}
  (hsettings : Settings.ofEnvironment server.environment = .ok settings)
  (hharmless : ∀ a ∈ server.navigator.analyzers, a.IsHarmless)
  (hversion : server.effective? request = some version)
  {d : Document} (hfile : files.find? (.ofString path) = some d)

include hsettings hharmless hversion hfile

/-- What is located for a call is what the navigator for its version resolves. -/
theorem answer_locate_of_effective? (position : Position) (before : List Call) :
    let nav := server.navigator.targeting version
    ∃ found, (nav.locate files (.ofString path) position before).answer = found ∧
      (server.locate files path position request before).answer = found.map (fun
        | none => .nothing
        | some (node, location) => .found (node.info, location)) ∧
      ((Path.ofString path).hasNull = false → ∃ located, found = .ok located) := by
  intro nav
  have hv : nav.version.supported? = some version := supported?_number (mem_of_effective? hversion)
  have hlocate := answer_locate_of_harmless hv hharmless hfile position before
  refine ⟨_, rfl, ?_, ?_⟩
  · unfold Server.locate Server.call
    rw [navigatorFor_of_effective? hsettings hversion]
    refine answer_explain_map _ ?_
    intro e he
    rcases hlocate with ⟨found, hok⟩ | ⟨-, herror⟩
    · cases hok.symm.trans he
    · obtain rfl := Except.error.inj (herror.symm.trans he)
      rfl
  · intro hnull
    rcases hlocate with hok | ⟨htrue, -⟩
    · exact hok
    · rw [hnull] at htrue
      contradiction

/-- What a file is diagnosed with for a call is what every parse of it reports. -/
theorem answer_diagnostics_of_effective? (before : List Call) :
    (server.diagnostics files path request before).answer =
      .ok (.found (treeReports d.tree)) := by
  have hv : (server.navigator.targeting version).version.supported? = some version :=
    supported?_number (mem_of_effective? hversion)
  obtain ⟨r, hanswer, hreports⟩ := exists_parseFile_of_harmless hv hharmless hfile 0 before
  unfold Server.diagnostics Server.call
  rw [navigatorFor_of_effective? hsettings hversion, ← hreports]
  dsimp only
  rw [answer_explain_map, hanswer]
  · rfl
  · intro e he
    cases hanswer.symm.trans he

end Agree

section Session

variable {π ρ : Type} [SelectionPolicy π] [ToString ρ]

theorem run_concat (server : Server π) (files : Files ρ) (calls : List ToolCall) (c : ToolCall) :
    server.run files (calls ++ [c]) = server.step files (server.run files calls) c :=
  List.foldl_append ..

/-- A session has one answer for each call. -/
theorem length_answers_run (server : Server π) (files : Files ρ) (calls : List ToolCall) :
    (server.run files calls).answers.length = calls.length := by
  induction calls using List.reverseRecOn with
  | nil => rfl
  | append_singleton calls c ih =>
    rw [run_concat, Server.step, Session.record, List.length_append, ih, List.length_append,
      List.length_singleton, List.length_singleton]

/-- What has been answered is not changed by later calls. -/
theorem answers_run_prefix (server : Server π) (files : Files ρ) (calls more : List ToolCall) :
    (server.run files calls).answers <+: (server.run files (calls ++ more)).answers := by
  induction more using List.reverseRecOn with
  | nil => simp
  | append_singleton more c ih =>
    rw [← List.append_assoc, run_concat]
    exact ih.trans (List.prefix_append _ _)

/-- A call in a session is answered with what the analyzers remember of the calls before it, and
with nothing else that is left of these. -/
theorem getElem?_answers_run (server : Server π) (files : Files ρ) (calls : List ToolCall)
    (c : ToolCall) (more : List ToolCall) :
    (server.run files (calls ++ c :: more)).answers[calls.length]? =
      some (server.serve files c (server.run files calls).calls).answer := by
  obtain ⟨later, hlater⟩ := answers_run_prefix server files (calls ++ [c]) more
  rw [List.append_cons, ← hlater, run_concat, Server.step, Session.record, List.append_assoc,
    List.getElem?_append_right (length_answers_run server files calls).le,
    length_answers_run, Nat.sub_self]
  rfl

end Session

/-- For the file at a path, a server answers calls with this version as a navigator does whose
analyzers remember the same: what is located is the resolved node with its location, or nothing if
there is none. Diagnostics are those of the navigator's parses, wherever their cursors are and
whatever the analyzers remember. -/
structure Server.Agrees {π ρ : Type} [SelectionPolicy π] [ToString ρ] (server : Server π)
    (files : Files ρ) (path : String) (request : VersionRequest) (nav : Navigator π) : Prop where
  located : ∀ position before,
    ∃ found : Except (NavigatorError ρ) (Option (Node × Location)),
      (nav.resolve files (.ofString path) position before).answer = found.map (·.map Prod.fst) ∧
      (nav.resolveLocation files (.ofString path) position before).answer =
        found.map (·.map Prod.snd) ∧
      (server.locate files path position request before).answer = found.map (fun
        | none => .nothing
        | some (node, location) => .found (node.info, location)) ∧
      ((Path.ofString path).hasNull = false → ∃ located, found = .ok located)
  diagnosed : ∃ reports,
    (∀ before, (server.diagnostics files path request before).answer = .ok (.found reports)) ∧
    ∀ offset before, ∃ r, (nav.parseFile files (.ofString path) offset before).answer = .ok r ∧
      r.diagnostics = reports

/-- The tools agree with the navigator and with each other. If the settings can be read and no
analyzer gives up, then whatever else is called in a session, a call is answered as by a server
that was just started over the navigator, with analyzers that remember the earlier calls. If they
remember nothing this can change the kind of a located node alone; and it changes nothing if no
analyzer goes by what it remembers. To name the version of the navigator changes nothing. For a
file that can be read and a supported version, the tools answer as the navigator for that version
does. -/
theorem run_agrees {π ρ : Type} [SelectionPolicy π] [ToString ρ] (server : Server π)
    (files : Files ρ) {settings : Settings}
    (hsettings : Settings.ofEnvironment server.environment = .ok settings)
    (hharmless : ∀ a ∈ server.navigator.analyzers, a.IsHarmless) :
    (∀ earlier c later, ∃ answer alone,
      (server.run files (earlier ++ c :: later)).answers[earlier.length]? = some answer ∧
      answer = (server.serve files c (server.run files earlier).calls).answer ∧
      (server.run files [c]).answers = [alone] ∧
      answer.map ToolResult.unname = alone.map ToolResult.unname ∧
      ((∀ a ∈ server.navigator.analyzers, a.IsSteady) → answer = alone)) ∧
    (∀ own, server.navigator.version.supported? = some own → ∀ (c : ToolCall) before,
      server.serve files (c.withVersion (.number own)) before =
        server.serve files (c.withVersion .absent) before) ∧
    ∀ path d request version, files.find? (.ofString path) = some d →
      server.effective? request = some version →
      server.Agrees files path request (server.navigator.targeting version) := by
  refine ⟨?_, ?_, ?_⟩
  · intro earlier c later
    refine ⟨_, _, getElem?_answers_run server files earlier c later, rfl, rfl,
      unname_serve hharmless c _ [], ?_⟩
    intro hsteady
    rw [serve_of_isSteady hsteady c _ []]
  · intro own hown c before
    have hnamed : server.effective? (.number own) = some own := by
      have hmem := VersionRequest.supported?_mem hown
      rw [Server.effective?, if_neg (by simp), normalize_number hmem]
      rfl
    have habsent : server.effective? .absent = some own := by
      rw [Server.effective?, if_pos rfl, hown]
    refine serve_congr ?_ c before
    rw [navigatorFor_of_effective? hsettings hnamed, navigatorFor_of_effective? hsettings habsent]
  · intro path d request version hfile hversion
    constructor
    case located =>
      intro position before
      obtain ⟨found, rfl, hlocate, hlocated⟩ :=
        answer_locate_of_effective? hsettings hharmless hversion hfile position before
      exact ⟨_, rfl, rfl, hlocate, hlocated⟩
    case diagnosed =>
      refine ⟨_, answer_diagnostics_of_effective? hsettings hharmless hversion hfile, ?_⟩
      intro offset before
      have hv : (server.navigator.targeting version).version.supported? = some version :=
        supported?_number (mem_of_effective? hversion)
      exact exists_parseFile_of_harmless hv hharmless hfile offset before

/-- An analyzer that renames the first class that it is shown in one way and all others in
another. -/
def ranker : Analyzer :=
  { name := "ranker"
    react := fun before _ => { kind := some (if before.isEmpty then "FIRST" else "LATER") } }

def servedBy (a : Analyzer) : Server :=
  { environment := { astVersion := some " 80 " }
    navigator := { version := .number 70, policy := .standard, tracing := false,
                   analyzers := [a] } }

/-- The class at the cursor is told to a first call and to a later one that names the version. An
analyzer that goes by what it remembers gives it another kind then, and no other difference. -/
theorem run_agrees_nestedClasses :
    let files : Files := { entries := [(.ofString "/w/a.php", nestedClasses)] }
    let first : ToolCall := .locate "/w//a.php" ⟨1, 2⟩ .absent
    let named : ToolCall := .locate "/w//a.php" ⟨1, 2⟩ (.number 70)
    let missing : ToolCall := .diagnostics "/w/b.php" .absent
    let kind : ToolResult → Option String
      | .located (.found (info, _)) => some info.kind
      | _ => none
    Settings.ofEnvironment (servedBy tagger).environment = .ok { astVersion := 80 } ∧
      tagger.IsHarmless ∧ tagger.IsSteady ∧ ranker.IsHarmless ∧
      (servedBy tagger).effective? (.number 70) = some 70 ∧
      (servedBy tagger).Agrees files "/w//a.php" (.number 70) (servedBy tagger).navigator ∧
      (∃ answer, ((servedBy tagger).run files [named]).answers = [answer] ∧
        ((servedBy tagger).run files [first, missing, named]).answers[0]? = some answer ∧
        ((servedBy tagger).run files [first, missing, named]).answers[2]? = some answer) ∧
      ∃ answer alone, ((servedBy ranker).run files [named]).answers = [alone] ∧
        ((servedBy ranker).run files [first, missing, named]).answers[2]? = some answer ∧
        answer.toOption.bind kind = some "LATER" ∧ alone.toOption.bind kind = some "FIRST" ∧
        answer.map ToolResult.unname = alone.map ToolResult.unname := by
  intro files first named missing kind
  have hsettings : Settings.ofEnvironment (servedBy tagger).environment =
      .ok { astVersion := 80 } := by
    decide +kernel
  have htagger : tagger.IsHarmless := fun _ _ => rfl
  have hranker : ranker.IsHarmless := fun _ _ => rfl
  have hsteady : tagger.IsSteady := fun _ _ _ => rfl
  have hversion : (servedBy tagger).effective? (.number 70) = some 70 := by decide +kernel
  have hfile : files.find? (.ofString "/w//a.php") = some nestedClasses := rfl
  obtain ⟨hsession, hown, hagrees⟩ :=
    run_agrees (servedBy tagger) files hsettings (List.forall_mem_singleton.2 htagger)
  obtain ⟨hranked, -, -⟩ :=
    run_agrees (servedBy ranker) files hsettings (List.forall_mem_singleton.2 hranker)
  refine ⟨hsettings, htagger, hsteady, hranker, hversion, hagrees _ _ _ _ hfile hversion, ?_, ?_⟩
  · obtain ⟨answer, alone, hthird, -, halone, -, hsame⟩ := hsession [first, missing] named []
    obtain ⟨answer', alone', hfirst, -, halone', -, hsame'⟩ := hsession [] first [missing, named]
    obtain rfl := hsame (List.forall_mem_singleton.2 hsteady)
    obtain rfl := hsame' (List.forall_mem_singleton.2 hsteady)
    have hserved : (servedBy tagger).serve files named = (servedBy tagger).serve files first :=
      hown 70 rfl first []
    have hrun : ((servedBy tagger).run files [named]).answers =
        ((servedBy tagger).run files [first]).answers :=
      congrArg (fun r : Reply ToolResult => [r.answer]) hserved
    rw [halone, halone'] at hrun
    obtain rfl := List.singleton_inj.1 hrun
    exact ⟨answer, halone, hfirst, hthird⟩
  · obtain ⟨answer, alone, hthird, -, halone, hunname, -⟩ := hranked [first, missing] named []
    have hkinds : ((servedBy ranker).run files [first, missing, named]).answers[2]?.bind
        (fun answer => answer.toOption.bind kind) = some "LATER" := by decide +kernel
    have hkind : ((servedBy ranker).run files [named]).answers.head?.bind
        (fun answer => answer.toOption.bind kind) = some "FIRST" := by decide +kernel
    change ((servedBy ranker).run files [first, missing, named]).answers[2]? = some answer at hthird
    rw [hthird] at hkinds
    rw [halone] at hkind
    exact ⟨answer, alone, halone, hthird, hkinds, hkind, hunname⟩

end SyntaxCursor.Navigation
