import SqlLint.Proofs.Report.Locating
import SqlLint.Proofs.Workspace.Ignoring
import SqlLint.Proofs.Workspace.Piping

/-!
# Which texts are refused

A `Diary` is a workspace together with the attempts that were made in it to start the tool for a
file.  Whatever happens, the files that are remembered are those of which the last attempt was
reported as ignored, but files are known by the path that the tool was told (`isFaithful_of`).  A
text therefore fails early for the sake of its own file only, as long as told paths tell files apart
(`mindsOnly_iff_told_eq_iff`): they do if the directory in which the tool runs stays the same and
nothing in a path goes up (`mindsOnly_of_isPlain`), and no longer when it changes
(`failsEarly_otherFile`).
-/

namespace SqlLint

open SqlLint.Path

/-- What happens in a workspace: it gets another configuration, the tool is run, or anything else
that is of no concern to the configuration and to the files that are remembered. -/
inductive Diary.Entry where
  | configure (c : Config)
  | run (i : Invocation)
  | elsewhere (w : Workspace)

/-- A workspace, and the attempts that were made in it to start the tool for a file. -/
structure Diary where
  workspace : Workspace
  attempts : List Attempt := []

namespace Diary

variable {d : Diary} {w : Workspace} {entries : List Entry} {path : String}

/-- The diary after something happened. -/
def after (d : Diary) : Entry → Diary
  | .configure c => { d with workspace := (d.workspace.configure c).2 }
  | .run i =>
    match d.workspace.invoke i with
    | .error _ => d
    | .ok (_, w) => ⟨w, d.attempts ++ (d.workspace.attempt? i).toList⟩
  | .elsewhere w =>
    { d with workspace := { w with config := d.workspace.config, ignored := d.workspace.ignored } }

/-- The diary of a workspace in which all this happened. -/
def of (w : Workspace) (entries : List Entry) : Diary := entries.foldl after ⟨w, []⟩

theorem of_induction {P : Diary → Prop} (start : P ⟨w, []⟩)
    (step : ∀ d entry, P d → P (d.after entry)) : P (of w entries) := by
  unfold of
  generalize (⟨w, []⟩ : Diary) = d at start ⊢
  induction entries generalizing d with
  | nil => exact start
  | cons entry entries ih => exact ih _ (step d entry start)

/-! ## What is remembered -/

/-- The files that are remembered are those of which the last attempt was reported as ignored. -/
def IsFaithful (d : Diary) : Prop :=
  ∀ x, x ∈ d.workspace.ignored ↔ LastIgnored (·.told = x) d.attempts

theorem IsFaithful.after (h : d.IsFaithful) (entry : Entry) : (d.after entry).IsFaithful := by
  cases entry with
  | configure c => exact h
  | elsewhere w => exact h
  | run i =>
    unfold Diary.after
    dsimp only
    split
    · exact h
    · next result w ran =>
      intro x
      rw [Workspace.mem_ignored_invoke ran, h x]
      cases d.workspace.attempt? i with
      | none => rw [Option.toList_none, List.append_nil]
      | some a => rw [Option.toList_some, lastIgnored_append_singleton]

theorem isFaithful_of (fresh : w.ignored = []) (entries : List Entry) :
    (of w entries).IsFaithful := by
  refine of_induction ?_ fun d entry h => h.after entry
  intro x
  rw [fresh]
  exact iff_of_false List.not_mem_nil not_lastIgnored_nil

/-- The attempts were made by local runs, and reports are of files that the tool can report. -/
def IsGrounded (d : Diary) : Prop :=
  ∀ a ∈ d.attempts, a.toUse.IsLocal ∧ (a.ignored = true → a.toUse.CanBeIgnored)

theorem IsGrounded.after (h : d.IsGrounded) (entry : Entry) : (d.after entry).IsGrounded := by
  cases entry with
  | configure c => exact h
  | elsewhere w => exact h
  | run i =>
    unfold Diary.after
    dsimp only
    split
    · exact h
    · intro a ha
      obtain ha | ha := List.mem_append.1 ha
      · exact h a ha
      · exact Workspace.isLocal_of_attempt? (Option.mem_toList.1 ha)

theorem isGrounded_of (w : Workspace) (entries : List Entry) : (of w entries).IsGrounded := by
  refine of_induction ?_ fun d entry h => h.after entry
  intro a ha
  cases ha

/-! ## Texts of one file -/

/-- The file of a path under the configuration of the moment. -/
def use (d : Diary) (path : String) : Use := ⟨d.workspace.config, path⟩

/-- A text of the path's document fails early exactly if the last attempt for this path was reported
as ignored. -/
def MindsOnly (d : Diary) (path : String) : Prop :=
  ∀ i text, text ≠ "" → i.target = some (.buffer text (some path)) →
    (d.workspace.FailsEarly i ↔ LastIgnored (·.path = path) d.attempts)

theorem mindsOnly_iff (faithful : d.IsFaithful) (isLocal : (d.use path).IsLocal) :
    d.MindsOnly path ↔
      (LastIgnored (·.told = (d.use path).told) d.attempts ↔
        LastIgnored (·.path = path) d.attempts) := by
  have fails (i : Invocation) (text : String) (filled : text ≠ "")
      (hi : i.target = some (.buffer text (some path))) :
      d.workspace.FailsEarly i ↔ LastIgnored (·.told = (d.use path).told) d.attempts := by
    have hv : i.validate = .ok (.buffer text (some path)) := by
      obtain ⟨kind, arguments, target⟩ := i
      obtain rfl : target = _ := hi
      rw [validate_buffer, Target.ofText, if_neg filled]
    exact (Workspace.failsEarly_iff_mem isLocal hv).trans (faithful _)
  constructor
  · intro minds
    let i : Invocation := ⟨.lint, [], some (.buffer "-" (some path))⟩
    rw [← minds i "-" (by decide) rfl]
    exact (fails i "-" (by decide) rfl).symm
  · intro same i text filled hi
    exact (fails i text filled hi).trans same

/-- One run for a file that can be reported as ignored, and then a text of a document, perhaps under
another configuration, show whether the two are told apart. -/
theorem told_eq_iff_of_mindsOnly {u v : Use} (can : u.CanBeIgnored) (isLocal : v.IsLocal)
    (minds : ∀ (w : Workspace) (entries : List Entry), w.ignored = [] →
      (of w entries).attempts = [⟨u, true⟩] → (of w entries).use v.path = v →
      (of w entries).MindsOnly v.path) :
    u.told = v.told ↔ u.path = v.path := by
  obtain ⟨w, i, attempted⟩ := can
  have attempted := Workspace.attempt?_forgotten attempted
  obtain ⟨result, w', ran⟩ := Workspace.exists_invoke_of_attempt? attempted
  let entries : List Entry := [.run i, .configure v.config]
  have written : of { w with ignored := [] } entries =
      ⟨{ w' with config := v.config }, [⟨u, true⟩]⟩ := by
    show after (after ⟨_, []⟩ (.run i)) (.configure v.config) = _
    simp only [after, ran, attempted]
    rfl
  have only : (of { w with ignored := [] } entries).attempts = [⟨u, true⟩] := by rw [written]
  have here : (of { w with ignored := [] } entries).use v.path = v := by
    rw [written]
    rfl
  have faithful : (of { w with ignored := [] } entries).IsFaithful := isFaithful_of rfl entries
  have judged := (mindsOnly_iff faithful (here ▸ isLocal)).1 (minds _ entries rfl only here)
  rwa [only, here, lastIgnored_singleton, lastIgnored_singleton, and_iff_left rfl, and_iff_left rfl]
    at judged

/-- Whatever is done with some files under some configurations, texts fail early for the sake of
their own file only, if and only if told paths tell the files that can be ignored apart as paths
do. -/
theorem mindsOnly_iff_told_eq_iff (K : Use → Prop) :
    (∀ (w : Workspace) (entries : List Entry), w.ignored = [] →
      (∀ a ∈ (of w entries).attempts, K a.toUse) →
      ∀ path, K ((of w entries).use path) → ((of w entries).use path).IsLocal →
        (of w entries).MindsOnly path) ↔
    ∀ u v, K u → K v → u.CanBeIgnored → v.IsLocal → (u.told = v.told ↔ u.path = v.path) := by
  constructor
  · intro minds u v hu hv can isLocal
    refine told_eq_iff_of_mindsOnly can isLocal fun w entries fresh only here => ?_
    refine minds w entries fresh ?_ v.path (here ▸ hv) (here ▸ isLocal)
    intro a ha
    rw [only, List.mem_singleton] at ha
    rw [ha]
    exact hu
  · intro apart w entries fresh among path here isLocal
    have grounded := isGrounded_of w entries
    have faithful := isFaithful_of fresh entries
    generalize of w entries = d at *
    rw [mindsOnly_iff faithful isLocal]
    -- The last attempt that counts is one for this file and one with this told path; later ones
    -- that are the one but not the other would have to be told apart from it.
    have alike {a : Attempt} (ha : a ∈ d.attempts) (ignored : a.ignored = true) {u : Use} (hu : K u)
        (hl : u.IsLocal) : a.told = u.told ↔ a.path = u.path :=
      apart a.toUse u (among a ha) hu ((grounded a ha).2 ignored) hl
    constructor
    · intro reported
      refine reported.of_agree fun a ha ignored told => ?_
      have own : a.path = path := (alike ha ignored here isLocal).1 told
      refine ⟨own, fun b hb same => ?_⟩
      have again := (alike ha ignored (among b hb) (grounded b hb).1).2 (own.trans same.symm)
      exact again.symm.trans told
    · intro reported
      refine reported.of_agree fun a ha ignored own => ?_
      have told := (alike ha ignored here isLocal).2 own
      refine ⟨told, fun b hb same => ?_⟩
      have again := (alike ha ignored (among b hb) (grounded b hb).1).1 (told.trans same.symm)
      exact again.symm.trans own

/-- A configuration with a working directory. -/
def configIn (dir : String) : Config := { settings := { workingDirectory := dir } }

/-- A tool that ignores every file is run in one directory; then another directory is chosen. -/
def moved : Diary :=
  of { machine := {
        files := [(["one"], .directory), (["two"], .directory)]
        start := fun _ _ _ _ => .ok { exit := ⟨some 0, [],
          Text.Utf8.encode "a.sql was ignored by a .sqlfluffignore pattern"⟩ } }
       config := configIn "/one"
       log := .off }
    [.run ⟨.lint, [], some (.buffer "select 1" (some "/one/a.sql"))⟩, .configure (configIn "/two")]

/-- After the change of the directory, a text of another file fails early though no attempt was ever
made for this file. -/
theorem failsEarly_otherFile :
    moved.attempts = [⟨⟨configIn "/one", "/one/a.sql"⟩, true⟩] ∧
    moved.workspace.FailsEarly ⟨.lint, [], some (.buffer "select 1" (some "/two/a.sql"))⟩ ∧
    ¬ LastIgnored (·.path = "/two/a.sql") moved.attempts := by
  have attempts : moved.attempts = [⟨⟨configIn "/one", "/one/a.sql"⟩, true⟩] := by decide +kernel
  have off : moved.workspace.settings.dbt.enabled = false := by decide +kernel
  have hv : (⟨.lint, [], some (.buffer "select 1" (some "/two/a.sql"))⟩ : Invocation).validate =
      .ok (.buffer "select 1" (some "/two/a.sql")) := by decide +kernel
  refine ⟨attempts, (Workspace.failsEarly_iff_mem off hv).2 (by decide +kernel), ?_⟩
  rw [attempts, lastIgnored_singleton]
  decide +kernel

/-- While the tool runs in one directory, texts of plain paths fail early for the sake of their own
file only. -/
theorem mindsOnly_of_isPlain {dir : String} (fresh : w.ignored = []) (hdir : IsPlain dir)
    (plain : ∀ a ∈ (of w entries).attempts,
      a.config.workingDirectory? = some dir ∧ IsPlain a.path)
    (isLocal : ((of w entries).use path).IsLocal)
    (here : (of w entries).workspace.config.workingDirectory? = some dir) (hpath : IsPlain path) :
    (of w entries).MindsOnly path := by
  let K (u : Use) : Prop := u.config.workingDirectory? = some dir ∧ IsPlain u.path
  refine (mindsOnly_iff_told_eq_iff K).2 ?_ w entries fresh plain path ⟨here, hpath⟩ isLocal
  intro u v hu hv _ _
  rw [Use.told, Use.told, hu.1, hv.1]
  exact targetPath_eq_iff_of_isPlain hdir hu.2 hv.2

end Diary

end SqlLint
