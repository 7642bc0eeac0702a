import SqlLint.Workspace.Probe

/-!
# What runs of the tool leave alone

`Workspace.given` is what the service knows from the editor: the settings and the open documents.
`Workspace.publications` are the diagnostics that it has published.  A run of the tool changes neither
of them (`Workspace.kept`), be it by the log, by what the user is shown, or by its processes
(`kept_begin`, `kept_finish`).
-/

namespace SqlLint

/-- Diagnostics that were published, with the version of the document they are of. -/
structure Publication where
  uri : Url
  diagnostics : List Diagnostic
  version : Option Int

namespace Workspace

/-- What the service was given by the editor: the configuration and the open documents. -/
def given (w : Workspace) : Config × Documents := (w.config, w.documents)

/-- The diagnostics that were published, in their order. -/
def publications (w : Workspace) : List Publication :=
  w.events.filterMap fun
    | .published uri diagnostics version => some ⟨uri, diagnostics, version⟩
    | _ => none

/-- What the editor gave and what was published. -/
def kept (w : Workspace) : (Config × Documents) × List Publication := (w.given, w.publications)

theorem publications_publish (w : Workspace) (uri : Url) (diagnostics : List Diagnostic)
    (version : Option Int) :
    (w.publish uri diagnostics version).publications =
      w.publications ++ [⟨uri, diagnostics, version⟩] := by
  simp [publish, tell, publications]

@[simp] theorem kept_showMessage (w : Workspace) (kind : MessageKind) (text : String) :
    (w.showMessage kind text).kept = w.kept := by
  have told : (w.showMessage kind text).publications = w.publications := by
    simp [showMessage, tell, publications]
  rw [kept, told]
  rfl

@[simp] theorem kept_complain (w : Workspace) (s : Settings) (text : String) :
    (w.complain s text).kept = w.kept := by
  unfold complain
  split
  · rfl
  · exact kept_showMessage w _ text

@[simp] theorem kept_note (w : Workspace) (lines : List String) : (w.note lines).kept = w.kept := by
  unfold note
  induction lines generalizing w with
  | nil => rfl
  | cons line lines ih =>
    rw [List.foldl_cons, ih]
    rfl

@[simp] theorem given_note (w : Workspace) (lines : List String) :
    (w.note lines).given = w.given :=
  congrArg Prod.fst (kept_note w lines)

theorem settings_note (w : Workspace) (lines : List String) :
    (w.note lines).settings = w.settings :=
  congrArg (fun given : Config × Documents => given.1.settings) (given_note w lines)

@[simp] theorem kept_track (w : Workspace) (process : Nat) : (w.track process).kept = w.kept := rfl

@[simp] theorem kept_notStarted (w : Workspace) (c : Config) (e : OsError) :
    (w.notStarted c e).kept = w.kept := by
  simp [notStarted]

/-! ## Runs of the tool -/

theorem kept_unignore (w : Workspace) (relative : Option String) :
    ((relative.map w.unignore).getD w).kept = w.kept := by
  cases relative <;> rfl

theorem kept_beginLocal (w : Workspace) (c : Config) (i : Invocation) (t : Target) :
    (w.beginLocal c i t).2.kept = w.kept := by
  unfold beginLocal
  dsimp only
  split
  · rw [kept_note, kept_note]
  · split
    · rw [kept_notStarted, kept_unignore, kept_note]
    · rw [kept_track]
      exact (kept_unignore _ _).trans (kept_note w _)

theorem kept_takeErrors (w : Workspace) (r : Running) (text : String) :
    (w.takeErrors r text).kept = w.kept := by
  unfold takeErrors
  split
  · rfl
  · dsimp only
    split
    · cases r.relative with
      | none => exact kept_note w _
      | some path => exact kept_note w _
    · rw [kept_complain, kept_note]

theorem kept_finish (w : Workspace) (r : Running) (e : Exit) : (w.finish r e).2.kept = w.kept := by
  unfold finish
  dsimp only
  rw [kept_takeErrors, kept_note]
  rfl

/-- A view of a workspace that sees neither the log nor what is shown to the user nor the machine. -/
structure IsBlind {β : Type} (view : Workspace → β) : Prop where
  note : ∀ w lines, view (w.note lines) = view w
  showMessage : ∀ w kind text, view (w.showMessage kind text) = view w
  machine : ∀ (w : Workspace) (machine : Machine), view { w with machine } = view w
  popup : ∀ (w : Workspace) (popupShown : Bool), view { w with popupShown } = view w

theorem IsBlind.remoteFailed {β : Type} {view : Workspace → β} (h : IsBlind view) (w : Workspace)
    (c : Config) (e : RemoteError) : view (w.remoteFailed c e) = view w := by
  unfold Workspace.remoteFailed
  dsimp only
  split
  · exact h.note w _
  · split
    · exact (h.showMessage _ _ _).trans ((h.popup _ _).trans (h.note w _))
    · exact (h.showMessage _ _ _).trans (h.note w _)

/-- What does not see the log, the messages and the machine does not see a run at the dbt server. -/
theorem IsBlind.runRemote {β : Type} {view : Workspace → β} (h : IsBlind view) (w : Workspace)
    (c : Config) (kind : CommandKind) (t : Target) : view (w.runRemote c kind t).2 = view w := by
  have noted := h.note w (remoteAnnouncement c kind (remoteRequest c t))
  cases kind with
  | lint =>
    unfold Workspace.runRemote
    dsimp only
    generalize w.note (remoteAnnouncement c .lint (remoteRequest c t)) = v at noted ⊢
    obtain ⟨_ | violations, machine⟩ := Remote.lint v.machine c.settings.dbt (remoteRequest c t)
    · exact (h.remoteFailed _ c _).trans ((h.machine v machine).trans noted)
    · exact (h.note _ _).trans ((h.machine v machine).trans noted)
  | fix =>
    unfold Workspace.runRemote
    dsimp only
    generalize w.note (remoteAnnouncement c .fix (remoteRequest c t)) = v at noted ⊢
    obtain ⟨_ | text, machine⟩ := Remote.format v.machine c.settings.dbt (remoteRequest c t)
    · exact (h.remoteFailed _ c _).trans ((h.machine v machine).trans noted)
    · exact (h.note _ _).trans ((h.machine v machine).trans noted)

theorem isBlind_kept : IsBlind kept where
  note := kept_note
  showMessage := kept_showMessage
  machine _ _ := rfl
  popup _ _ := rfl

/-- What an invocation does when it begins: it is refused, the dbt server is asked, or a local command
begins. -/
theorem begin_eq (w : Workspace) (i : Invocation) :
    w.begin i = match i.validate with
      | .error e => .error e
      | .ok t =>
        if w.settings.dbt.enabled then
          .ok (.over (w.runRemote w.config i.kind t).1, (w.runRemote w.config i.kind t).2)
        else .ok (w.beginLocal w.config i t) := by
  unfold Workspace.begin
  cases i.validate with
  | error e => rfl
  | ok t =>
    simp only [bind, Except.bind]
    split <;> rfl

/-- The beginning of a run leaves alone what the editor gave and what was published. -/
theorem kept_begin {w w' : Workspace} {i : Invocation} {s : Started}
    (h : w.begin i = .ok (s, w')) : w'.kept = w.kept := by
  rw [begin_eq] at h
  split at h
  · cases h
  · split at h
    · obtain ⟨-, rfl⟩ := Prod.mk.inj (Except.ok.inj h)
      exact isBlind_kept.runRemote w _ _ _
    · rw [← kept_beginLocal w w.config i _, Except.ok.inj h]

/-- A local command that runs for an invocation is of its kind. -/
theorem kind_of_beginLocal {w w' : Workspace} {c : Config} {i : Invocation} {t : Target}
    {r : Running} (h : w.beginLocal c i t = (.running r, w')) : r.kind = i.kind := by
  unfold beginLocal at h
  dsimp only at h
  split at h
  · cases (Prod.mk.inj h).1
  · split at h
    · cases (Prod.mk.inj h).1
    · obtain ⟨rfl⟩ := (Prod.mk.inj h).1
      rfl

theorem of_begin_running {w w' : Workspace} {i : Invocation} {r : Running}
    (h : w.begin i = .ok (.running r, w')) : r.kind = i.kind ∧ w.settings.dbt.enabled = false := by
  rw [begin_eq] at h
  split at h
  · cases h
  · split at h
    · cases (Prod.mk.inj (Except.ok.inj h)).1
    · next off => exact ⟨kind_of_beginLocal (Except.ok.inj h), Bool.not_eq_true _ ▸ off⟩

/-- Asking the tool for its version leaves what the editor gave as it is. -/
theorem given_refreshVersion (w : Workspace) : w.refreshVersion.given = w.given := by
  have probed (program : String) (dir : Option String) :
      (w.probe program dir).2.given = w.given := by
    unfold probe
    dsimp only
    split <;> rfl
  have asked := probed w.config.executable (w.existing w.config.workingDirectory?)
  unfold refreshVersion
  generalize w.probe w.config.executable (w.existing w.config.workingDirectory?) = answer at asked ⊢
  obtain ⟨_ | version, v⟩ := answer
  · exact asked
  · exact (given_note v _).trans asked

theorem documents_refreshVersion (w : Workspace) : w.refreshVersion.documents = w.documents :=
  congrArg Prod.snd (given_refreshVersion w)

end Workspace

end SqlLint
