import SqlLint.Proofs.Workspace.Ending

/-!
# Files that the tool ignores

A file that the tool reports as ignored is remembered, by the path that the tool was told.  An
`Attempt` is made by a run that goes as far as to start the tool for a file, whether or not it can
be started: it decides whether the file is remembered, and leaves all others alone
(`mem_ignored_invoke`).  A text of a file that is remembered fails before any attempt is made
(`failsEarly_iff_mem`).
-/

namespace SqlLint

/-- A file under a configuration. -/
structure Use where
  config : Config
  path : String
  deriving DecidableEq

/-- The path by which the tool is told of the file. -/
def Use.told (u : Use) : String := targetPath u.path u.config.workingDirectory?

/-- Runs under the configuration are local. -/
def Use.IsLocal (u : Use) : Prop := u.config.settings.dbt.enabled = false

/-- An attempt to start the tool for a file, and whether it started and reported the file as
ignored. -/
structure Attempt extends Use where
  ignored : Bool
  deriving DecidableEq

/-- Of the attempts with a property, the last one was reported as ignored. -/
def LastIgnored (P : Attempt → Prop) (attempts : List Attempt) : Prop :=
  ∃ before a after, attempts = before ++ a :: after ∧ P a ∧ a.ignored = true ∧ ∀ b ∈ after, ¬ P b

section

variable {P Q : Attempt → Prop} {attempts : List Attempt} {a : Attempt}

theorem not_lastIgnored_nil : ¬ LastIgnored P [] := by
  rintro ⟨before, a, after, h, -⟩
  cases before <;> cases h

theorem lastIgnored_append_singleton : LastIgnored P (attempts ++ [a]) ↔
    (P a ∧ a.ignored = true) ∨ (¬ P a ∧ LastIgnored P attempts) := by
  constructor
  · rintro ⟨before, b, after, split, hb, ignored, rest⟩
    obtain rfl | ⟨after', c, rfl⟩ := after.eq_nil_or_concat
    · obtain ⟨-, same⟩ := List.append_inj' split rfl
      obtain rfl := List.singleton_inj.1 same
      exact .inl ⟨hb, ignored⟩
    · rw [List.concat_eq_append, ← List.cons_append, ← List.append_assoc] at split
      obtain ⟨rfl, same⟩ := List.append_inj' split rfl
      obtain rfl := List.singleton_inj.1 same
      refine .inr ⟨rest a (by simp), before, b, after', rfl, hb, ignored, ?_⟩
      intro d hd
      exact rest d (by simp [hd])
  · rintro (⟨ha, ignored⟩ | ⟨ha, before, b, after, rfl, hb, ignored, rest⟩)
    · exact ⟨attempts, a, [], rfl, ha, ignored, by simp⟩
    · refine ⟨before, b, after ++ [a], by simp, hb, ignored, ?_⟩
      intro d hd
      obtain hd | hd := List.mem_append.1 hd
      · exact rest d hd
      · exact List.mem_singleton.1 hd ▸ ha

theorem lastIgnored_singleton : LastIgnored P [a] ↔ P a ∧ a.ignored = true := by
  rw [← List.nil_append [a], lastIgnored_append_singleton]
  exact or_iff_left fun h => not_lastIgnored_nil h.2

/-- Two properties have the same last attempt if they agree wherever a reported one matters. -/
theorem LastIgnored.of_agree (h : LastIgnored P attempts)
    (agree : ∀ a ∈ attempts, a.ignored = true → P a → Q a ∧ ∀ b ∈ attempts, Q b → P b) :
    LastIgnored Q attempts := by
  obtain ⟨before, a, after, rfl, ha, ignored, rest⟩ := h
  obtain ⟨hq, back⟩ := agree a (by simp) ignored ha
  refine ⟨before, a, after, rfl, hq, ignored, ?_⟩
  intro b hb hqb
  exact rest b hb (back b (by simp [hb]) hqb)

end

/-- The path by which the tool is told of a target's file. -/
def Target.told? (t : Target) (c : Config) : Option String :=
  t.path?.map fun path => targetPath path c.workingDirectory?

namespace Workspace

variable {w v : Workspace} {c : Config} {i : Invocation} {t : Target} {r : Running}
  {result : RunResult} {x : String}

/-- What came of the attempt to start the tool for a target, if one was made. -/
def spawned? (w : Workspace) (c : Config) (i : Invocation) (t : Target) :
    Option (Except OsError (Nat × Machine)) :=
  let arguments := w.arguments c i t (t.told? c)
  let v := w.note (announcement c t arguments)
  if w.isIgnored t (t.told? c) then none
  else some (v.machine.spawn (v.command c arguments t.contents?))

/-- What a process has written on its standard error when it is waited for. -/
def errors (w : Workspace) (process : Nat) : String :=
  match (w.machine.kill process).collect? process with
  | some (e, _) => Text.Utf8.lossyString e.errors
  | none => Text.Utf8.lossyString []

/-- The tool was started and says that it ignores the file. -/
def reports (w : Workspace) : Except OsError (Nat × Machine) → Bool
  | .error _ => false
  | .ok (process, machine) => saysIgnored (({ w with machine }.track process).errors process)

/-- The attempt that a run makes to start the tool for a file. -/
def attempt? (w : Workspace) (i : Invocation) : Option Attempt :=
  match i.validate with
  | .error _ => none
  | .ok t =>
    if w.settings.dbt.enabled then none
    else t.path?.bind fun path => (w.spawned? w.config i t).map fun spawned =>
      ⟨⟨w.config, path⟩, w.reports spawned⟩

/-- The run fails and no attempt to start the tool is made. -/
def FailsEarly (w : Workspace) (i : Invocation) : Prop :=
  ∃ t v, i.validate = .ok t ∧ w.spawned? w.config i t = none ∧ w.invoke i = .ok ({}, v)

/-! ## What is remembered -/

/-- What is noted depends neither on the files that are remembered nor on the running commands. -/
theorem note_with (w : Workspace) (ignored : List String) (registry : Registry Nat)
    (lines : List String) :
    ({ w with ignored, registry } : Workspace).note lines =
      { w.note lines with ignored, registry } := by
  unfold note
  induction lines generalizing w with
  | nil => rfl
  | cons line lines ih =>
    rw [List.foldl_cons, List.foldl_cons]
    exact ih { w with
      log := (w.log.append w.machine line).1
      machine := (w.log.append w.machine line).2 }

@[simp] theorem ignored_note (w : Workspace) (lines : List String) :
    (w.note lines).ignored = w.ignored := by
  have same := congrArg (·.ignored) (note_with w w.ignored w.registry lines)
  exact same

@[simp] theorem registry_note (w : Workspace) (lines : List String) :
    (w.note lines).registry = w.registry := by
  have same := congrArg (·.registry) (note_with w w.ignored w.registry lines)
  exact same

@[simp] theorem ignored_complain (w : Workspace) (s : Settings) (text : String) :
    (w.complain s text).ignored = w.ignored := by
  unfold complain
  split <;> rfl

theorem mem_ignored_ignore {path : String} :
    x ∈ (w.ignore path).ignored ↔ x ∈ w.ignored ∨ x = path := by
  show x ∈ (if w.ignored.contains path then w.ignored else w.ignored ++ [path]) ↔ _
  by_cases known : w.ignored.contains path = true
  · rw [if_pos known, or_iff_left_of_imp]
    rintro rfl
    exact List.contains_iff_mem.1 known
  · rw [if_neg known, List.mem_append, List.mem_singleton]

theorem mem_ignored_unignore {told : Option String} :
    x ∈ ((told.map w.unignore).getD w).ignored ↔ told ≠ some x ∧ x ∈ w.ignored := by
  cases told with
  | none => simp
  | some path =>
    show x ∈ w.ignored.filter (· ≠ path) ↔ _
    rw [List.mem_filter, decide_eq_true_iff, ne_eq, ne_eq, Option.some.injEq, eq_comm (a := path)]
    exact and_comm

theorem isBlind_ignored : IsBlind ignored where
  note := ignored_note
  showMessage _ _ _ := rfl
  machine _ _ := rfl
  popup _ _ := rfl

/-- A local run that is not refused forgets its file, whether or not the tool can be started. -/
theorem beginLocal_spawned (w : Workspace) (c : Config) (i : Invocation) (t : Target) :
    match w.spawned? c i t with
    | none => ∃ v, w.beginLocal c i t = (.over {}, v) ∧ v.ignored = w.ignored
    | some (.error _) => ∃ v, w.beginLocal c i t = (.over {}, v) ∧
        ∀ x, x ∈ v.ignored ↔ t.told? c ≠ some x ∧ x ∈ w.ignored
    | some (.ok (process, machine)) => ∃ r v, w.beginLocal c i t = (.running r, v) ∧
        r.relative = t.told? c ∧ v.errors r.process =
          ({ w with machine }.track process).errors process ∧
        ∀ x, x ∈ v.ignored ↔ t.told? c ≠ some x ∧ x ∈ w.ignored := by
  unfold spawned? beginLocal
  dsimp only
  rw [show (t.path?.map fun path => targetPath path c.workingDirectory?) = t.told? c from rfl]
  generalize w.arguments c i t (t.told? c) = arguments
  have same : (w.note (announcement c t arguments)).isIgnored t (t.told? c) =
      w.isIgnored t (t.told? c) := by
    rw [isIgnored, ignored_note, ← isIgnored]
  have kept := ignored_note w (announcement c t arguments)
  have busy := registry_note w (announcement c t arguments)
  rw [same]
  generalize w.note (announcement c t arguments) = v at kept busy ⊢
  by_cases ignored : w.isIgnored t (t.told? c) = true
  · rw [if_pos ignored, if_pos ignored]
    exact ⟨_, rfl, (ignored_note _ _).trans kept⟩
  · rw [if_neg ignored, if_neg ignored]
    have forgets : ∀ x, x ∈ (((t.told? c).map v.unignore).getD v).ignored ↔
        t.told? c ≠ some x ∧ x ∈ w.ignored := by
      intro x
      rw [mem_ignored_unignore, kept]
    have heeded : ((t.told? c).map v.unignore).getD v =
        { v with ignored := (((t.told? c).map v.unignore).getD v).ignored } := by
      cases t.told? c <;> rfl
    generalize ((t.told? c).map v.unignore).getD v = u at forgets heeded ⊢
    have known : u.machine.spawn (u.command c arguments t.contents?) =
        v.machine.spawn (v.command c arguments t.contents?) := by
      rw [heeded]
      rfl
    rw [known]
    cases v.machine.spawn (v.command c arguments t.contents?) with
    | error e =>
      refine ⟨_, rfl, fun x => ?_⟩
      rw [notStarted, ignored_complain, ignored_note]
      exact forgets x
    | ok spawned =>
      have room : u.registry = w.registry := by rw [heeded, busy]
      refine ⟨_, _, rfl, rfl, ?_, forgets⟩
      show errors { u with machine := _, registry := _ } _ =
        errors { w with machine := _, registry := _ } _
      unfold errors
      dsimp only
      rw [room]

theorem mem_ignored_takeErrors {text : String} : x ∈ (w.takeErrors r text).ignored ↔
    x ∈ w.ignored ∨ (saysIgnored text = true ∧ r.relative = some x) := by
  unfold takeErrors
  by_cases silent : text.isEmpty = true
  · rw [if_pos silent, String.isEmpty_iff.1 silent, or_iff_left fun h => absurd h.1 (by decide)]
  · rw [if_neg silent]
    dsimp only
    have kept := ignored_note w ["Raw stderr output:", logRule, text, logRule]
    generalize w.note ["Raw stderr output:", logRule, text, logRule] = v at kept ⊢
    by_cases told : saysIgnored text = true
    · rw [if_pos told, ← kept, and_iff_right told]
      cases r.relative with
      | none => simp
      | some path => exact mem_ignored_ignore.trans (by rw [Option.some.injEq, eq_comm (a := x)])
    · rw [if_neg told, ignored_complain, kept, or_iff_left fun h => told h.1]

theorem mem_ignored_await : x ∈ (w.await r).2.ignored ↔
    x ∈ w.ignored ∨ (saysIgnored (w.errors r.process) = true ∧ r.relative = some x) := by
  unfold await errors
  cases (w.machine.kill r.process).collect? r.process with
  | none => exact mem_ignored_takeErrors.trans (by rw [ignored_note])
  | some ended => exact mem_ignored_takeErrors.trans (by rw [ignored_note])

theorem invoke_of_over (off : w.settings.dbt.enabled = false) (hv : i.validate = .ok t)
    (h : w.beginLocal w.config i t = (.over result, v)) : w.invoke i = .ok (result, v) := by
  unfold invoke
  rw [begin_eq_beginLocal off hv, h]
  rfl

theorem invoke_of_running (off : w.settings.dbt.enabled = false) (hv : i.validate = .ok t)
    (h : w.beginLocal w.config i t = (.running r, v)) : w.invoke i = .ok (v.await r) := by
  unfold invoke
  rw [begin_eq_beginLocal off hv, h]
  rfl

/-- A local run that attempts to start the tool decides about its file and leaves others alone. -/
theorem mem_ignored_invoke_of_local (off : w.settings.dbt.enabled = false) (hv : i.validate = .ok t)
    (h : w.invoke i = .ok (result, v)) :
    x ∈ v.ignored ↔ match w.spawned? w.config i t with
      | none => x ∈ w.ignored
      | some spawned => (t.told? w.config = some x ∧ w.reports spawned = true) ∨
          (t.told? w.config ≠ some x ∧ x ∈ w.ignored) := by
  have begins := beginLocal_spawned w w.config i t
  cases hs : w.spawned? w.config i t with
  | none =>
    rw [hs] at begins
    obtain ⟨u, begun, kept⟩ := begins
    obtain ⟨-, rfl⟩ := Prod.mk.inj (Except.ok.inj ((invoke_of_over off hv begun).symm.trans h))
    rw [kept]
  | some spawned =>
    rw [hs] at begins
    cases spawned with
    | error e =>
      obtain ⟨u, begun, forgets⟩ := begins
      obtain ⟨-, rfl⟩ := Prod.mk.inj (Except.ok.inj ((invoke_of_over off hv begun).symm.trans h))
      simp only [forgets, reports, Bool.false_eq_true, and_false, false_or]
    | ok started =>
      obtain ⟨r, u, begun, told, errors, forgets⟩ := begins
      have ended := Except.ok.inj ((invoke_of_running off hv begun).symm.trans h)
      rw [show v = (u.await r).2 by rw [ended], mem_ignored_await, forgets, told, errors]
      show _ ↔ (_ ∧ saysIgnored _ = true) ∨ _
      exact Or.comm.trans (or_congr_left and_comm)

theorem attempt?_of_local (off : w.settings.dbt.enabled = false) (hv : i.validate = .ok t) :
    w.attempt? i = t.path?.bind fun path =>
      (w.spawned? w.config i t).map fun spawned => ⟨⟨w.config, path⟩, w.reports spawned⟩ := by
  unfold attempt?
  rw [hv]
  simp only [off, Bool.false_eq_true, if_false]

/-- A run decides about the file that it attempts to start the tool for, and about no other. -/
theorem mem_ignored_invoke (h : w.invoke i = .ok (result, v)) :
    x ∈ v.ignored ↔ match w.attempt? i with
      | none => x ∈ w.ignored
      | some a => (a.told = x ∧ a.ignored = true) ∨ (a.told ≠ x ∧ x ∈ w.ignored) := by
  cases hv : i.validate with
  | error e =>
    unfold invoke at h
    rw [begin_eq, hv] at h
    cases h
  | ok t =>
    by_cases off : w.settings.dbt.enabled = true
    · have none_ : w.attempt? i = none := by
        unfold attempt?
        rw [hv]
        exact if_pos off
      unfold invoke at h
      rw [begin_eq, hv] at h
      simp only [off, if_true] at h
      obtain ⟨-, rfl⟩ := Prod.mk.inj (Except.ok.inj h)
      rw [none_, isBlind_ignored.runRemote]
    · rw [Bool.not_eq_true] at off
      rw [mem_ignored_invoke_of_local off hv h, attempt?_of_local off hv]
      cases hp : t.path? with
      | none =>
        have untold : t.told? w.config = none := congrArg (Option.map _) hp
        cases w.spawned? w.config i t with
        | none => rfl
        | some spawned => simp [untold]
      | some path =>
        have told : t.told? w.config = some (Use.told ⟨w.config, path⟩) :=
          congrArg (Option.map _) hp
        cases w.spawned? w.config i t with
        | none => rfl
        | some spawned =>
          rw [told, ne_eq, Option.some.injEq]
          rfl

/-! ## Texts that are refused -/

theorem spawned?_eq_none_iff : w.spawned? c i t = none ↔ w.isIgnored t (t.told? c) = true := by
  unfold spawned?
  dsimp only
  by_cases ignored : w.isIgnored t (t.told? c) = true
  · rw [if_pos ignored]
    exact iff_of_true rfl ignored
  · rw [if_neg ignored]
    exact iff_of_false nofun ignored

theorem failsEarly_iff_mem {text path : String} (off : w.settings.dbt.enabled = false)
    (hv : i.validate = .ok (.buffer text (some path))) :
    w.FailsEarly i ↔ Use.told ⟨w.config, path⟩ ∈ w.ignored := by
  have refused : w.spawned? w.config i (.buffer text (some path)) = none ↔
      Use.told ⟨w.config, path⟩ ∈ w.ignored :=
    spawned?_eq_none_iff.trans List.contains_iff_mem
  rw [← refused]
  constructor
  · rintro ⟨t, v, ht, none_, -⟩
    obtain rfl := Except.ok.inj (hv.symm.trans ht)
    exact none_
  · intro none_
    have begins := beginLocal_spawned w w.config i (.buffer text (some path))
    rw [none_] at begins
    obtain ⟨v, begun, -⟩ := begins
    exact ⟨_, v, hv, none_, invoke_of_over off hv begun⟩

theorem of_attempt? {a : Attempt} (h : w.attempt? i = some a) :
    ∃ t path spawned, i.validate = .ok t ∧ w.settings.dbt.enabled = false ∧ t.path? = some path ∧
      w.spawned? w.config i t = some spawned ∧ a = ⟨⟨w.config, path⟩, w.reports spawned⟩ := by
  unfold attempt? at h
  split at h
  · cases h
  · next t hv =>
    split at h
    · cases h
    · next off =>
      obtain ⟨path, hp, attempted⟩ := Option.bind_eq_some_iff.1 h
      obtain ⟨spawned, hs, rfl⟩ := Option.map_eq_some_iff.1 attempted
      exact ⟨t, path, spawned, hv, Bool.not_eq_true _ ▸ off, hp, hs, rfl⟩

/-- What an attempt comes to does not depend on the files that are remembered. -/
theorem attempt?_forgotten {a : Attempt} (h : w.attempt? i = some a) :
    ({ w with ignored := [] } : Workspace).attempt? i = some a := by
  obtain ⟨t, path, spawned, hv, off, hp, hs, rfl⟩ := of_attempt? h
  have heeded : ¬ w.isIgnored t (t.told? w.config) = true := by
    rw [← spawned?_eq_none_iff, hs]
    nofun
  have free : ¬ ({ w with ignored := [] } : Workspace).isIgnored t (t.told? w.config) = true := by
    unfold isIgnored
    cases t.told? w.config <;> simp
  have again : ({ w with ignored := [] } : Workspace).spawned? w.config i t = some spawned := by
    unfold spawned? at hs ⊢
    dsimp only at hs ⊢
    rw [if_neg heeded] at hs
    rw [if_neg free, ← hs, note_with w [] w.registry]
    rfl
  rw [attempt?_of_local (w := { w with ignored := [] }) off hv, hp]
  show Option.map _ (({ w with ignored := [] } : Workspace).spawned? w.config i t) = _
  rw [again]
  rfl

theorem exists_invoke_of_attempt? {a : Attempt} (h : w.attempt? i = some a) :
    ∃ result v, w.invoke i = .ok (result, v) := by
  obtain ⟨t, path, spawned, hv, off, -⟩ := of_attempt? h
  cases begun : w.beginLocal w.config i t with
  | mk started v =>
    rcases started with result | r
    · exact ⟨_, _, invoke_of_over off hv begun⟩
    · exact ⟨_, _, invoke_of_running off hv begun⟩

end Workspace

/-- Some run can report the file as ignored. -/
def Use.CanBeIgnored (u : Use) : Prop :=
  ∃ (w : Workspace) (i : Invocation), w.attempt? i = some ⟨u, true⟩

theorem Workspace.isLocal_of_attempt? {w : Workspace} {i : Invocation} {a : Attempt}
    (h : w.attempt? i = some a) :
    a.toUse.IsLocal ∧ (a.ignored = true → a.toUse.CanBeIgnored) := by
  obtain ⟨t, path, spawned, -, off, -, -, rfl⟩ := of_attempt? h
  refine ⟨off, fun ignored => ?_⟩
  dsimp only at ignored
  exact ⟨w, i, ignored ▸ h⟩

end SqlLint
