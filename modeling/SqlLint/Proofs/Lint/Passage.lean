import SqlLint.Proofs.Lint.Outcome
import SqlLint.Proofs.Lint.Publishing
import SqlLint.Proofs.Report.Grouping
import SqlLint.Proofs.Url.FilePath

/-!
# What one lint publishes

A `Passage` is one lint from the moment it is taken up: the strides that it makes, with anything
happening between two of them.  A lint publishes the diagnostics of files that the tool reported, each
file once, and nothing else: if the tool failed, or wrote nothing that is a report, all diagnostics and
all numbers that were applied stay as they are (`Passage.isFaithful`).
-/

namespace SqlLint

/-- A step of a lint: the run and the bench before, and the bench after. -/
structure Stride where
  run : LintRun
  before : Bench
  after : Bench

namespace Stride

/-- How the tool answered in a stride, if it did. -/
def outcome? (s : Stride) : Option LintOutcome :=
  match s.run with
  | .issued t => s.before.workspace.outcome? (t.job.invocation t.config.settings t.path)
  | .waiting _ r => (s.before.workspace.machine.collect? r.process).map fun ended => .exited ended.1
  | _ => none

/-- The diagnostics published in a stride. -/
def told (s : Stride) : List Publication :=
  s.after.workspace.publications.drop s.before.workspace.publications.length

end Stride

/-- The strides of a lint so far, and the run that goes on. -/
inductive Passage (job : LintJob) : List Stride → Option LintRun → Prop where
  | taken : Passage job [] (some (.taken job))
  | stride {strides : List Stride} {run : LintRun} {next : Option LintRun} {b b' : Bench} :
      Passage job strides (some run) → b.step? run = some (next, b') →
      Passage job (strides ++ [⟨run, b, b'⟩]) next

/-- The diagnostics published in some strides. -/
def told (strides : List Stride) : List Publication := strides.flatMap Stride.told

/-- The path of a reported file. -/
def LintTicket.locate (t : LintTicket) (reported : String) : String :=
  LintTarget.resolve ⟨t.path, t.config.workingDirectory?, none⟩ reported

/-- In one of the strides the tool did its work and reported a file. -/
def Reported (job : LintJob) (strides : List Stride) (file : String) : Prop :=
  ∃ s ∈ strides, ∃ t, s.run.ticket? = some t ∧ t.job = job ∧
    ∃ o, s.outcome? = some o ∧ o.succeeded = true ∧ ∃ r ∈ reportsOf o.lines, t.locate r.path = file

/-- The diagnostics of a file are published for the linted document if it is its file, and else for
the URL of the file. -/
def LintJob.Locates (job : LintJob) (file : String) (uri : Url) : Prop :=
  ∃ path, job.document.path? = some path ∧
    if Path.same file path then uri = job.uri else Url.ofFilePath? file = some uri

variable {job : LintJob} {strides : List Stride} {s : Stride} {run : LintRun}
  {next : Option LintRun} {b b' : Bench} {t : LintTicket} {live : Option Document}
  {lines : List String} {file : FileDiagnostics} {files : List FileDiagnostics}

/-! ## Files and URLs -/

/-- Different files have different URLs. -/
theorem LintJob.Locates.ne {f g : String} {u v : Url} (hf : job.Locates f u) (hg : job.Locates g v)
    (apart : Path.same f g = false) : u ≠ v := by
  rintro rfl
  -- Either way a URL leads back to its file, so that one URL would make the two files the same.
  obtain ⟨path, hpath, hf⟩ := hf
  obtain ⟨path', hpath', hg⟩ := hg
  obtain rfl : path = path' := Option.some.inj (hpath.symm.trans hpath')
  have meet {p : String} (hf : Path.same f p = true) (hg : Path.same g p = true) : False := by
    rw [Path.same_trans hf (Path.same_symm hg)] at apart
    cases apart
  split at hf
  · next own =>
    split at hg
    · next own' => exact meet own own'
    · next other =>
      subst hf
      exact other (Url.same_of_ofFilePath? hg hpath)
  · next other =>
    split at hg
    · subst hg
      exact other (Url.same_of_ofFilePath? hf hpath)
    · obtain ⟨p, hp, -⟩ := Url.filePath?_of_ofFilePath? hf
      exact meet (Url.same_of_ofFilePath? hf hp) (Url.same_of_ofFilePath? hg hp)

/-! ## Accounts -/

/-- The lint has its ticket for the file of its document. -/
structure LintTicket.IsFor (t : LintTicket) (job : LintJob) : Prop where
  job_eq : t.job = job
  path_eq : job.document.path? = some t.path

/-- In one of the strides the tool did its work, and these lines came of it. -/
def Learnt (strides : List Stride) (t : LintTicket) (lines : List String) : Prop :=
  ∃ s ∈ strides, s.run.ticket? = some t ∧
    ∃ o, s.outcome? = some o ∧ o.succeeded = true ∧ o.lines = lines

/-- Diagnostics are published for the document itself, or for the URL of their file. -/
def FileDiagnostics.GoTo (file : FileDiagnostics) (job : LintJob) (uri : Url) : Prop :=
  if file.isTarget then uri = job.uri else file.uri? = some uri

/-- Of the files that the tool reported, some are still to come; what was published is of others, each
published at most once. -/
structure IsAccounted (job : LintJob) (strides : List Stride) (t : LintTicket)
    (live : Option Document) (lines : List String) (files : List FileDiagnostics) : Prop where
  ticket : t.IsFor job
  learnt : Learnt strides t lines
  shown : ∃ done, ∃ shown : List (Publication × FileDiagnostics), t.map lines live = done ++ files ∧
    told strides = shown.map (·.1) ∧ (shown.map (·.2)).Sublist done ∧
    ∀ x ∈ shown, x.2.GoTo job x.1.uri

theorem told_concat (strides : List Stride) (s : Stride) :
    told (strides ++ [s]) = told strides ++ s.told := by
  simp [told]

theorem Learnt.concat (h : Learnt strides t lines) (s : Stride) :
    Learnt (strides ++ [s]) t lines := by
  obtain ⟨s', hs', rest⟩ := h
  exact ⟨s', List.mem_append_left _ hs', rest⟩

theorem IsAccounted.stay (h : IsAccounted job strides t live lines files) (quiet : s.told = []) :
    IsAccounted job (strides ++ [s]) t live lines files := by
  obtain ⟨done, shown, all, told_eq, sub, go⟩ := h.shown
  refine ⟨h.ticket, h.learnt.concat s, done, shown, all, ?_, sub, go⟩
  rw [told_concat, quiet, List.append_nil, told_eq]

/-- The next file is passed over. -/
theorem IsAccounted.pass (h : IsAccounted job strides t live lines (file :: files))
    (quiet : s.told = []) : IsAccounted job (strides ++ [s]) t live lines files := by
  obtain ⟨done, shown, all, told_eq, sub, go⟩ := h.shown
  refine ⟨h.ticket, h.learnt.concat s, done ++ [file], shown, by simp [all], ?_,
    sub.trans (List.sublist_append_left done [file]), go⟩
  rw [told_concat, quiet, List.append_nil, told_eq]

/-- The diagnostics of the next file are published. -/
theorem IsAccounted.publish {p : Publication}
    (h : IsAccounted job strides t live lines (file :: files)) (one : s.told = [p])
    (goTo : file.GoTo job p.uri) : IsAccounted job (strides ++ [s]) t live lines files := by
  obtain ⟨done, shown, all, told_eq, sub, go⟩ := h.shown
  refine ⟨h.ticket, h.learnt.concat s, done ++ [file], shown ++ [(p, file)], by simp [all], ?_, ?_, ?_⟩
  · rw [told_concat, one, told_eq, List.map_append]
    rfl
  · rw [List.map_append]
    exact sub.append (List.Sublist.refl _)
  · intro x hx
    obtain hx | hx := List.mem_append.1 hx
    · exact go x hx
    · obtain rfl := List.mem_singleton.1 hx
      exact goTo

/-- What is known of a lint on its way. -/
def IsOnWay (job : LintJob) (strides : List Stride) : Option LintRun → Prop
  | none => told strides = [] ∨ ∃ t live lines files, IsAccounted job strides t live lines files
  | some (.taken j) => j = job ∧ told strides = []
  | some (.issued t) => t.IsFor job ∧ told strides = []
  | some (.waiting t r) => t.IsFor job ∧ told strides = [] ∧ r.kind = .lint
  | some (.ended t result) => t.IsFor job ∧ told strides = [] ∧
    (result.succeeded = true → Learnt strides t result.lines)
  | some (.publishing t live files) => ∃ lines, IsAccounted job strides t live lines files
  | some (.applied t live file files) =>
    file.isTarget = true ∧ ∃ lines, IsAccounted job strides t live lines (file :: files)

theorem Stride.told_of_step? (h : b.step? run = some (next, b')) :
    Stride.told ⟨run, b, b'⟩ = run.tells := by
  rw [Stride.told, LintRun.publications_of_step? h, List.drop_left]

/-! ## One stride -/

theorem isOnWay_of_issue (h : b.issue job = (next, b')) (quiet : told (strides ++ [s]) = []) :
    IsOnWay job (strides ++ [s]) next := by
  obtain ⟨rfl, -, -⟩ | ⟨path, hpath, rfl, -⟩ := LintRun.issue_cases h
  · exact .inl quiet
  · exact ⟨⟨rfl, hpath⟩, quiet⟩

theorem isOnWay_of_start (isFor : t.IsFor job) (h : b.start t = (next, b'))
    (quiet : told (strides ++ [⟨.issued t, b, b'⟩]) = []) :
    IsOnWay job (strides ++ [⟨.issued t, b, b'⟩]) next := by
  obtain ⟨rfl, -⟩ | ⟨result, w, begun, rfl, -⟩ | ⟨r, w, begun, rfl, -⟩ := LintRun.start_cases h
  · exact .inl quiet
  · obtain ⟨o, outcome, succeeded, found⟩ := Workspace.outcome?_of_begin_over rfl begun
    refine ⟨isFor, quiet, fun well => ?_⟩
    rw [succeeded] at well
    exact ⟨_, List.mem_append_right _ (List.mem_singleton_self _), rfl, o, outcome, well,
      (found well).symm⟩
  · exact ⟨isFor, quiet, (Workspace.of_begin_running begun).1⟩

theorem isOnWay_of_collect? {r : Running} (isFor : t.IsFor job) (lint : r.kind = .lint)
    (h : b.collect? t r = some (next, b'))
    (quiet : told (strides ++ [⟨.waiting t r, b, b'⟩]) = []) :
    IsOnWay job (strides ++ [⟨.waiting t r, b, b'⟩]) next := by
  obtain ⟨exit, machine, collected, rfl, -⟩ := LintRun.collect?_eq_some h
  obtain ⟨succeeded, found⟩ := Workspace.isOf_finish { b.workspace with machine } lint exit
  refine ⟨isFor, quiet, fun well => ?_⟩
  rw [succeeded] at well
  exact ⟨_, List.mem_append_right _ (List.mem_singleton_self _), rfl, .exited exit,
    by simp [Stride.outcome?, collected], well, (found well).symm⟩

theorem isOnWay_of_resolve {result : RunResult} (isFor : t.IsFor job)
    (learnt : result.succeeded = true → Learnt strides t result.lines)
    (h : b.resolve t result = (next, b')) (quiet : told (strides ++ [s]) = []) :
    IsOnWay job (strides ++ [s]) next := by
  obtain ⟨rfl, -, -⟩ | ⟨well, -, rfl⟩ := LintRun.resolve_cases h
  · exact .inl quiet
  · exact ⟨result.lines, isFor, (learnt well).concat s, [], [], rfl, quiet, List.Sublist.refl _,
      fun x hx => by cases hx⟩

theorem isOnWay_of_publishNext (accounted : IsAccounted job strides t live lines (file :: files))
    (h : b.step? (.publishing t live (file :: files)) = some (next, b')) :
    IsOnWay job (strides ++ [⟨.publishing t live (file :: files), b, b'⟩]) next := by
  have told := Stride.told_of_step? h
  rw [LintRun.tells] at told
  obtain ⟨run', hnext, rfl⟩ := LintRun.exists_of_step?_publishing h
  obtain ⟨target, rfl, -⟩ | ⟨target, -, -, rfl, -⟩ | ⟨other, rfl, -⟩ :=
    LintRun.publishNext_cases hnext
  · exact ⟨lines, accounted.pass (by rw [told, if_pos target])⟩
  · exact ⟨target, lines, accounted.stay (by rw [told, if_pos target])⟩
  · rw [other] at told
    cases hu : file.uri? with
    | none => exact ⟨lines, accounted.pass (by rw [told, hu]; rfl)⟩
    | some uri =>
      have one : Stride.told ⟨.publishing t live (file :: files), b, b'⟩ =
          [⟨uri, file.diagnostics, none⟩] := by
        rw [told, hu]
        rfl
      refine ⟨lines, accounted.publish one ?_⟩
      rw [FileDiagnostics.GoTo, other]
      exact hu

theorem IsOnWay.stride (way : IsOnWay job strides (some run))
    (h : b.step? run = some (next, b')) : IsOnWay job (strides ++ [⟨run, b, b'⟩]) next := by
  have told_eq := Stride.told_of_step? h
  -- Until it has its files, a run publishes nothing.
  have quiet (silent : told strides = []) (tells : run.tells = []) :
      told (strides ++ [⟨run, b, b'⟩]) = [] := by
    rw [told_concat, silent, told_eq, tells]
    rfl
  cases run with
  | taken j =>
    obtain ⟨rfl, silent⟩ := way
    exact isOnWay_of_issue (Option.some.inj h) (quiet silent rfl)
  | issued t => exact isOnWay_of_start way.1 (Option.some.inj h) (quiet way.2 rfl)
  | waiting t r => exact isOnWay_of_collect? way.1 way.2.2 h (quiet way.2.1 rfl)
  | ended t result =>
    exact isOnWay_of_resolve way.1 way.2.2 (Option.some.inj h) (quiet way.2.1 rfl)
  | publishing t live files =>
    obtain ⟨lines, accounted⟩ := way
    cases files with
    | nil =>
      obtain ⟨rfl, -⟩ := Prod.mk.inj (Option.some.inj h)
      exact .inr ⟨t, live, lines, [], accounted.stay told_eq⟩
    | cons file files => exact isOnWay_of_publishNext accounted h
  | applied t live file files =>
    obtain ⟨target, lines, accounted⟩ := way
    obtain ⟨rfl, -⟩ := Prod.mk.inj (Option.some.inj h)
    refine ⟨lines, accounted.publish told_eq ?_⟩
    rw [FileDiagnostics.GoTo, if_pos target]
    exact congrArg LintJob.uri accounted.ticket.job_eq

theorem Passage.isOnWay (h : Passage job strides next) : IsOnWay job strides next := by
  induction h with
  | taken => exact ⟨rfl, rfl⟩
  | stride _ step ih => exact ih.stride step

/-! ## The whole lint -/

theorem Reported.mono {strides' : List Stride} {path : String} (h : Reported job strides path)
    (sub : strides ⊆ strides') : Reported job strides' path := by
  obtain ⟨s, hs, rest⟩ := h
  exact ⟨s, sub hs, rest⟩

/-- The files of the diagnostics are files that the tool reported. -/
theorem IsAccounted.reported (h : IsAccounted job strides t live lines files)
    {g : FileDiagnostics} (hg : g ∈ t.map lines live) : Reported job strides g.path := by
  obtain ⟨s, hs, ticket, o, outcome, well, rfl⟩ := h.learnt
  have path := List.mem_map_of_mem (f := FileDiagnostics.path) hg
  rw [LintTicket.map, map_path_fileDiagnostics] at path
  obtain ⟨r, hr, located⟩ := List.mem_map.1 ((Path.firsts_sublist _).subset path)
  exact ⟨s, hs, t, ticket, h.ticket.job_eq, o, outcome, well, r, hr, located⟩

theorem IsAccounted.locates (h : IsAccounted job strides t live lines files)
    {g : FileDiagnostics} (hg : g ∈ t.map lines live) {uri : Url} (goTo : g.GoTo job uri) :
    job.Locates g.path uri := by
  refine ⟨t.path, h.ticket.path_eq, ?_⟩
  rw [FileDiagnostics.GoTo, isTarget_of_mem hg] at goTo
  exact goTo

/-- What some strides of a lint do to the benches on which they are made. -/
structure IsFaithful (job : LintJob) (strides : List Stride) : Prop where
  adds : ∀ s ∈ strides, s.after.workspace.publications = s.before.workspace.publications ++ s.told
  shows : ∃ shown : List (Publication × String), told strides = shown.map (·.1) ∧
    (∀ x ∈ shown, job.Locates x.2 x.1.uri ∧ Reported job strides x.2) ∧
    shown.Pairwise fun x y => Path.same x.2 y.2 = false
  nodup : ((told strides).map (·.uri)).Nodup
  applies : ∀ s ∈ strides, ∀ uri,
    (s.after.generations.of uri).applied ≠ (s.before.generations.of uri).applied →
      uri = job.uri ∧ ∃ path file, job.document.path? = some path ∧
        Path.same file path = true ∧ Reported job strides file
  silent : (∀ s ∈ strides, ∀ o, s.outcome? = some o → reportsOf o.lines = []) →
    ∀ s ∈ strides, s.after.workspace.publications = s.before.workspace.publications ∧
      ∀ uri, (s.after.generations.of uri).applied = (s.before.generations.of uri).applied

theorem Passage.exists_step? (h : Passage job strides next) (hs : s ∈ strides) :
    ∃ before next, before <+: strides ∧ Passage job before (some s.run) ∧
      s.before.step? s.run = some (next, s.after) := by
  induction h with
  | taken => cases hs
  | @stride strides run next b b' passage step ih =>
    obtain hs | hs := List.mem_append.1 hs
    · obtain ⟨before, next, sub, rest⟩ := ih hs
      exact ⟨before, next, sub.trans (List.prefix_append _ _), rest⟩
    · obtain rfl := List.mem_singleton.1 hs
      exact ⟨strides, next, List.prefix_append _ _, passage, step⟩

theorem IsOnWay.silent_or_accounted (way : IsOnWay job strides next) :
    told strides = [] ∨ ∃ t live lines files, IsAccounted job strides t live lines files := by
  match next, way with
  | none, way => exact way
  | some (.taken _), way => exact .inl way.2
  | some (.issued _), way => exact .inl way.2
  | some (.waiting _ _), way => exact .inl way.2.1
  | some (.ended _ _), way => exact .inl way.2.1
  | some (.publishing t live files), ⟨lines, accounted⟩ =>
    exact .inr ⟨t, live, lines, files, accounted⟩
  | some (.applied t live file files), ⟨_, lines, accounted⟩ =>
    exact .inr ⟨t, live, lines, file :: files, accounted⟩

theorem Passage.exists_shown (h : Passage job strides next) :
    ∃ shown : List (Publication × String), told strides = shown.map (·.1) ∧
      (∀ x ∈ shown, job.Locates x.2 x.1.uri ∧ Reported job strides x.2) ∧
      shown.Pairwise fun x y => Path.same x.2 y.2 = false := by
  obtain silent | ⟨t, live, lines, files, accounted⟩ := h.isOnWay.silent_or_accounted
  · refine ⟨[], silent, ?_, .nil⟩
    intro x hx
    cases hx
  · obtain ⟨done, shown, all, told_eq, sub, go⟩ := accounted.shown
    refine ⟨shown.map fun x => (x.1, x.2.path), ?_, ?_, ?_⟩
    · rw [told_eq, List.map_map]
      rfl
    · intro y hy
      obtain ⟨x, hx, rfl⟩ := List.mem_map.1 hy
      have mem : x.2 ∈ t.map lines live := by
        rw [all]
        exact List.mem_append_left _ (sub.subset (List.mem_map_of_mem hx))
      exact ⟨accounted.locates mem (go x hx), accounted.reported mem⟩
    · -- Groups are of different files.
      have apart := fileDiagnostics_pairwise lines ⟨t.path, t.config.workingDirectory?, live⟩
        t.config.settings
      rw [← LintTicket.map, all] at apart
      have shown_apart := (apart.sublist (List.sublist_append_left _ _)).sublist sub
      rw [List.pairwise_map] at shown_apart ⊢
      exact shown_apart

theorem Passage.applies (h : Passage job strides next) (hs : s ∈ strides) {uri : Url}
    (changed : (s.after.generations.of uri).applied ≠ (s.before.generations.of uri).applied) :
    uri = job.uri ∧ ∃ path file, job.document.path? = some path ∧
      Path.same file path = true ∧ Reported job strides file := by
  obtain ⟨before, next, sub, passage, step⟩ := h.exists_step? hs
  obtain ⟨t, live, file, files, run, target, rfl⟩ := LintRun.applied_of_step? step changed
  -- The file that is next was reported before this stride, and so in all of them.
  have way := passage.isOnWay
  rw [run] at way
  obtain ⟨lines, accounted⟩ := way
  obtain ⟨done, shown, all, -⟩ := accounted.shown
  have mem : file ∈ t.map lines live := by simp [all]
  refine ⟨congrArg LintJob.uri accounted.ticket.job_eq, t.path, file.path,
    accounted.ticket.path_eq, ?_, (accounted.reported mem).mono sub.subset⟩
  rw [← isTarget_of_mem mem, target]

/-- A lint publishes only the diagnostics of files that the tool, having done its work, reported, those
of each file once, and it applies a number only if the linted file is one of them; if the tool reported
no file, be it that it failed, every publication and every number stays as it is. -/
theorem Passage.isFaithful (h : Passage job strides next) : IsFaithful job strides := by
  have adds (s : Stride) (hs : s ∈ strides) :
      s.after.workspace.publications = s.before.workspace.publications ++ s.told := by
    obtain ⟨before, next, -, -, step⟩ := h.exists_step? hs
    rw [LintRun.publications_of_step? step, Stride.told_of_step? step]
  have shows := h.exists_shown
  refine ⟨adds, shows, ?_, fun s hs uri changed => h.applies hs changed, ?_⟩
  · obtain ⟨shown, told_eq, located, apart⟩ := shows
    rw [told_eq, List.map_map, List.Nodup, List.pairwise_map]
    exact apart.imp_of_mem fun hx hy different => (located _ hx).1.ne (located _ hy).1 different
  · intro silent s hs
    -- What is published and what is applied both come from a report, and there is none.
    have unreported (file : String) : ¬ Reported job strides file := by
      rintro ⟨s, hs, t, -, -, o, outcome, -, r, hr, -⟩
      rw [silent s hs o outcome] at hr
      cases hr
    constructor
    · obtain ⟨shown, told_eq, located, -⟩ := shows
      have nothing : shown = [] := by
        rw [List.eq_nil_iff_forall_not_mem]
        exact fun x hx => unreported _ (located x hx).2
      have quiet : s.told = [] := by
        rw [nothing] at told_eq
        exact List.flatMap_eq_nil_iff.1 told_eq s hs
      rw [adds s hs, quiet, List.append_nil]
    · intro uri
      by_contra changed
      obtain ⟨-, path, file, -, -, reported⟩ := h.applies hs changed
      exact unreported file reported

/-! ## A lint that is left alone -/

/-- The strides of a run with nothing between them, a number of them at most, and the run after them. -/
def LintRun.alone : Nat → Bench → LintRun → List Stride × Option LintRun
  | 0, _, run => ([], some run)
  | n + 1, b, run =>
    match b.step? run with
    | none => ([], some run)
    | some (none, b') => ([⟨run, b, b'⟩], none)
    | some (some run', b') => (⟨run, b, b'⟩ :: (alone n b' run').1, (alone n b' run').2)

theorem Passage.append_alone (h : Passage job strides (some run)) (n : Nat) (b : Bench) :
    Passage job (strides ++ (LintRun.alone n b run).1) (LintRun.alone n b run).2 := by
  induction n generalizing strides run b with
  | zero => simpa [LintRun.alone] using h
  | succ n ih =>
    rw [LintRun.alone]
    split
    · simpa using h
    · next step => exact h.stride step
    · next run' b' step =>
      have rest := ih (h.stride step) b'
      rwa [List.append_assoc] at rest

open Linter in
theorem Passage.isFaithful_ownReport :
    IsFaithful ⟨.plain, .buffer, true⟩ (LintRun.alone 7 (eager (writing ownReport) [.plain]).bench
      (.taken ⟨.plain, .buffer, true⟩)).1 ∧
    (told (LintRun.alone 7 (eager (writing ownReport) [.plain]).bench
      (.taken ⟨.plain, .buffer, true⟩)).1).map (·.uri) = [Document.plain.uri] := by
  refine ⟨?_, by decide +kernel⟩
  exact Passage.isFaithful (Passage.append_alone .taken 7 _)

end SqlLint
