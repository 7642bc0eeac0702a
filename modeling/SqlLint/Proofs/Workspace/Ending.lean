import SqlLint.Proofs.Workspace.Asking

/-!
# How runs end

A run of the tool that succeeds has the output of the program that was started for it (`of_invoke`).  The
process is known by its number only, so the numbers must not repeat (`Machine.IsOrderly`), and a
process that is killed on the way gives no success.
-/

namespace SqlLint

namespace Machine

variable {m m' : Machine} {c : Command} {id : Nat} {b : Behaviour} {e : Exit} {p : Process}

/-! ## Processes and their numbers -/

/-- The processes have numbers from before the next one. -/
def IsOrderly (m : Machine) : Prop := ∀ p ∈ m.processes, p.id < m.nextProcess

/-- The process of a number behaves like this, unless it was killed. -/
def Does (m : Machine) (id : Nat) (b : Behaviour) : Prop :=
  ∀ p ∈ m.processes, p.id = id → p.behaviour = b ∨ p.behaviour.exit.code = none

/-- What a command does is what the tool does that sees the environment and the variables given
besides. -/
theorem start_of_behaviour {place : Place} (h : m.behaviour c = .ok (place, b)) :
    m.start m.files (overlay m.environment c.vars) place c = .ok b := by
  unfold behaviour at h
  split at h
  · cases h
  · cases hp : m.workplace c with
    | error e =>
      rw [hp] at h
      cases h
    | ok place' =>
      rw [hp] at h
      cases hs : m.start m.files (overlay m.environment c.vars) place' c with
      | error e =>
        simp only [bind, Except.bind, hs] at h
        cases h
      | ok b' =>
        simp only [bind, Except.bind, pure, Except.pure, hs] at h
        obtain ⟨rfl, rfl⟩ := Prod.mk.inj (Except.ok.inj h)
        exact hs

theorem of_spawn (h : m.spawn c = .ok (id, m')) :
    ∃ vars place b held, m.start m.files vars place c = .ok b ∧ id = m.nextProcess ∧
      m'.processes = m.processes ++ [⟨id, place, b, held⟩] ∧ m'.nextProcess = id + 1 := by
  unfold spawn at h
  cases hb : m.behaviour c with
  | error e =>
    rw [hb] at h
    cases h
  | ok run =>
    obtain ⟨place, b⟩ := run
    rw [hb] at h
    obtain ⟨rfl, rfl⟩ := Prod.mk.inj (Except.ok.inj h)
    exact ⟨_, place, b, _, start_of_behaviour hb, rfl, rfl, rfl⟩

theorem mem_kill (h : p ∈ (m.kill id).processes) :
    ∃ q ∈ m.processes, p.id = q.id ∧ (p = q ∨ p = q.killed) := by
  obtain ⟨q, hq, rfl⟩ := List.mem_map.1 h
  refine ⟨q, hq, ?_⟩
  split
  · exact ⟨rfl, .inr rfl⟩
  · exact ⟨rfl, .inl rfl⟩

/-! ## What keeps a machine orderly -/

theorem isOrderly_empty : ({} : Machine).IsOrderly := nofun

theorem IsOrderly.spawn (h : m.IsOrderly) (spawned : m.spawn c = .ok (id, m')) :
    m'.IsOrderly := by
  obtain ⟨-, place, b, held, -, hid, processes, next⟩ := of_spawn spawned
  intro p hp
  rw [processes, List.mem_append, List.mem_singleton] at hp
  rw [next]
  obtain hp | rfl := hp
  · have before := h p hp
    omega
  · exact Nat.lt_succ_self _

theorem IsOrderly.kill (h : m.IsOrderly) (id : Nat) : (m.kill id).IsOrderly := by
  intro p hp
  obtain ⟨q, hq, same, -⟩ := mem_kill hp
  rw [same]
  exact h q hq

theorem of_collect? (h : m.collect? id = some (e, m')) :
    (∃ p ∈ m.processes, p.id = id ∧ e = p.behaviour.exit) ∧
      m' = { m with processes := m.processes.filter (·.id ≠ id) } := by
  unfold collect? at h
  split at h
  · cases h
  · next p found =>
    split at h
    · cases h
    · obtain ⟨rfl, rfl⟩ := Prod.mk.inj (Option.some.inj h)
      exact ⟨⟨p, List.mem_of_find?_eq_some found, by simpa using List.find?_some found, rfl⟩, rfl⟩

theorem IsOrderly.collect? (h : m.IsOrderly) (collected : m.collect? id = some (e, m')) :
    m'.IsOrderly := by
  obtain ⟨-, rfl⟩ := of_collect? collected
  intro p hp
  exact h p (List.mem_filter.1 hp).1

theorem IsOrderly.release (h : m.IsOrderly) : m.release.IsOrderly := by
  intro p hp
  obtain ⟨q, hq, rfl⟩ := List.mem_map.1 hp
  exact h q hq

/-! ## What a process does -/

theorem IsOrderly.does (h : m.IsOrderly) (spawned : m.spawn c = .ok (id, m')) :
    ∃ vars place b, m.start m.files vars place c = .ok b ∧ m'.Does id b := by
  obtain ⟨vars, place, b, held, starts, hid, processes, -⟩ := of_spawn spawned
  refine ⟨vars, place, b, starts, ?_⟩
  intro p hp same
  rw [processes, List.mem_append, List.mem_singleton] at hp
  obtain hp | rfl := hp
  · have before := h p hp
    omega
  · exact .inl rfl

theorem Does.kill (h : m.Does id b) (other : Nat) : (m.kill other).Does id b := by
  intro p hp same
  obtain ⟨q, hq, number, rfl | rfl⟩ := mem_kill hp
  · exact h p hq same
  · exact .inr rfl

theorem Does.foldl_kill (h : m.Does id b) (others : List Nat) :
    (others.foldl Machine.kill m).Does id b := by
  induction others generalizing m with
  | nil => exact h
  | cons other others ih => exact ih (h.kill other)

theorem Does.exit_eq (h : m.Does id b) (collected : m.collect? id = some (e, m'))
    (ended : e.code ≠ none) : e = b.exit := by
  obtain ⟨⟨p, hp, number, rfl⟩, -⟩ := of_collect? collected
  obtain same | killed := h p hp number
  · rw [same]
  · exact absurd killed ended

end Machine

namespace Workspace

variable {w w' : Workspace} {c : Config} {i : Invocation} {t : Target} {r : Running} {b : Behaviour}
  {result : RunResult}

theorem append_eq (log : OutputLog) (m : Machine) (line : String) :
    ∃ files, (log.append m line).2 = { m with files } := by
  cases log with
  | memory lines => exact ⟨_, rfl⟩
  | off => exact ⟨_, rfl⟩
  | file path =>
    unfold OutputLog.append Machine.append?
    dsimp only
    cases (m.files.write m.directory path _).toOption with
    | none => exact ⟨_, rfl⟩
    | some files => exact ⟨_, rfl⟩

/-- Of the machine, the log changes the files only. -/
theorem machine_note (w : Workspace) (lines : List String) :
    ∃ files, (w.note lines).machine = { w.machine with files } := by
  unfold note
  induction lines generalizing w with
  | nil => exact ⟨_, rfl⟩
  | cons line lines ih =>
    obtain ⟨files, first⟩ := append_eq w.log w.machine line
    obtain ⟨files', rest⟩ := ih { w with
      log := (w.log.append w.machine line).1
      machine := (w.log.append w.machine line).2 }
    refine ⟨files', ?_⟩
    rw [List.foldl_cons]
    refine rest.trans ?_
    rw [first]

theorem isOrderly_note (h : w.machine.IsOrderly) (lines : List String) :
    (w.note lines).machine.IsOrderly := by
  obtain ⟨files, same⟩ := machine_note w lines
  rw [same]
  exact h

theorem machine_complain (w : Workspace) (s : Settings) (text : String) :
    (w.complain s text).machine = w.machine := by
  unfold complain
  split <;> rfl

/-! ## Runs step by step -/

/-- A local run begins with a process of its command, or it is over with nothing done but some files
written for the log. -/
theorem beginLocal_cases (w : Workspace) (c : Config) (i : Invocation) (t : Target) :
    (∃ v files, w.beginLocal c i t = (.over {}, v) ∧ v.machine = { w.machine with files }) ∨
    ∃ (r : Running) (v : Workspace) (files : Files) (command : Command) (machine : Machine),
      w.beginLocal c i t = (.running r, track { v with machine } r.process) ∧
      v.machine = { w.machine with files } ∧ v.machine.spawn command = .ok (r.process, machine) ∧
      command.IsOn c t := by
  unfold beginLocal
  dsimp only
  -- Which command it is does not depend on what is noted before it starts.
  have known (v : Workspace) := isOn_command w v c i t
  generalize t.path?.map (fun path => targetPath path c.workingDirectory?) = relative at *
  generalize w.arguments c i t relative = arguments at *
  obtain ⟨files, noted⟩ := machine_note w (announcement c t arguments)
  generalize w.note (announcement c t arguments) = v at *
  split
  · obtain ⟨files', ignored⟩ := machine_note v ["File marked as ignored: " ++ relative.getD ""]
    exact .inl ⟨_, files', rfl, by rw [ignored, noted]⟩
  · have heeded : ((relative.map v.unignore).getD v).machine = v.machine := by
      cases relative <;> rfl
    rw [← heeded] at noted
    generalize (relative.map v.unignore).getD v = u at *
    split
    · next e _ =>
      obtain ⟨files', told⟩ := machine_note u ["Child process threw error", e.message]
      refine .inl ⟨_, files', rfl, ?_⟩
      rw [notStarted, machine_complain, told, noted]
    · next process machine spawned =>
      exact .inr ⟨_, u, files, _, machine, rfl, noted, spawned, known u⟩

/-- A local run is over at once, or it is waited for. -/
theorem invoke_cases (off : w.settings.dbt.enabled = false) (h : w.invoke i = .ok (result, w')) :
    ∃ t, i.validate = .ok t ∧ (w.beginLocal w.config i t = (.over result, w') ∨
      ∃ r v, w.beginLocal w.config i t = (.running r, v) ∧ v.await r = (result, w')) := by
  unfold invoke at h
  cases hv : i.validate with
  | error e =>
    rw [begin_eq, hv] at h
    cases h
  | ok t =>
    refine ⟨t, rfl, ?_⟩
    rw [begin_eq_beginLocal off hv] at h
    generalize w.beginLocal w.config i t = answer at h ⊢
    obtain ⟨early | r, v⟩ := answer
    · obtain ⟨rfl, rfl⟩ := Prod.mk.inj (Except.ok.inj h)
      exact .inl rfl
    · exact .inr ⟨r, v, rfl, Except.ok.inj h⟩

/-! ## Runs keep the machine orderly -/

theorem isOrderly_track (h : w.machine.IsOrderly) (process : Nat) :
    (w.track process).machine.IsOrderly := by
  show (w.registry.evicted.foldl Machine.kill w.machine).IsOrderly
  generalize w.machine = m at h
  induction w.registry.evicted generalizing m with
  | nil => exact h
  | cons id ids ih => exact ih _ (h.kill id)

theorem isOrderly_beginLocal (h : w.machine.IsOrderly) (c : Config) (i : Invocation) (t : Target) :
    (w.beginLocal c i t).2.machine.IsOrderly := by
  obtain ⟨v, files, begun, same⟩ | ⟨r, v, files, command, machine, begun, same, spawned, -⟩ :=
    beginLocal_cases w c i t
  · rw [begun, same]
    exact h
  · have before : v.machine.IsOrderly := same ▸ h
    rw [begun]
    exact isOrderly_track (before.spawn spawned) _

theorem isOrderly_finish (h : w.machine.IsOrderly) (r : Running) (e : Exit) :
    (w.finish r e).2.machine.IsOrderly := by
  have taken {v : Workspace} (hv : v.machine.IsOrderly) (text : String) :
      (v.takeErrors r text).machine.IsOrderly := by
    unfold takeErrors
    dsimp only
    split
    · exact hv
    · split
      · cases r.relative with
        | none => exact isOrderly_note hv _
        | some path => exact isOrderly_note hv _
      · rw [machine_complain]
        exact isOrderly_note hv _
  have removed : ({ w with registry := w.registry.remove r.entry } : Workspace).machine.IsOrderly := h
  exact taken (isOrderly_note removed _) _

/-- A run of the tool leaves the machine orderly. -/
theorem isOrderly_invoke (off : w.settings.dbt.enabled = false) (orderly : w.machine.IsOrderly)
    (h : w.invoke i = .ok (result, w')) : w'.machine.IsOrderly := by
  obtain ⟨t, -, early | ⟨r, v, running, ended⟩⟩ := invoke_cases off h
  · have begun := isOrderly_beginLocal orderly w.config i t
    rw [early] at begun
    exact begun
  · have begun := isOrderly_beginLocal orderly w.config i t
    rw [running] at begun
    rw [show w' = (v.await r).2 by rw [ended]]
    unfold await
    split
    · next collected => exact isOrderly_finish ((begun.kill _).collect? collected) r _
    · exact isOrderly_finish begun r _

/-! ## The output of a run -/

theorem eq_of_beginLocal_over (h : w.beginLocal c i t = (.over result, w')) : result = {} := by
  obtain ⟨v, files, begun, -⟩ | ⟨r, v, files, command, machine, begun, -⟩ :=
    beginLocal_cases w c i t
  · rw [begun] at h
    exact (Started.over.inj (Prod.mk.inj h).1).symm
  · rw [begun] at h
    cases (Prod.mk.inj h).1

theorem of_beginLocal_running (orderly : w.machine.IsOrderly)
    (h : w.beginLocal c i t = (.running r, w')) :
    ∃ files vars place command b, w.machine.start files vars place command = .ok b ∧
      command.IsOn c t ∧ w'.machine.Does r.process b := by
  obtain ⟨v, files, begun, -⟩ | ⟨r', v, files, command, machine, begun, same, spawned, on⟩ :=
    beginLocal_cases w c i t
  · rw [begun] at h
    cases (Prod.mk.inj h).1
  · rw [begun] at h
    obtain ⟨started, rfl⟩ := Prod.mk.inj h
    obtain rfl := Started.running.inj started
    have before : v.machine.IsOrderly := same ▸ orderly
    obtain ⟨vars, place, b, starts, does⟩ := before.does spawned
    have here : v.machine.start = w.machine.start := by rw [same]
    rw [here] at starts
    exact ⟨_, vars, place, command, b, starts, on, does.foldl_kill _⟩

theorem of_await (does : w.machine.Does r.process b) (success : (w.await r).1.succeeded = true) :
    b.exit.code.any isSuccess = true ∧ (w.await r).1.lines = outputLines r.kind b.exit.output := by
  have lost (v : Workspace) {e : Exit} (h : e.code = none) : (v.finish r e).1 = {} := by
    simp only [finish, h]
  have ended (v : Workspace) {e : Exit} {code : Int} (h : e.code = some code) :
      (v.finish r e).1 = ⟨isSuccess code, outputLines r.kind e.output⟩ := by
    simp only [finish, h]
  unfold await at success ⊢
  split at success
  · next e machine collected =>
    cases hcode : e.code with
    | none =>
      rw [lost _ hcode] at success
      cases success
    | some code =>
      rw [ended _ hcode] at success ⊢
      have same := (does.kill r.process).exit_eq collected (by simp [hcode])
      rw [← same, hcode]
      exact ⟨success, rfl⟩
  · rw [lost _ rfl] at success
    cases success

/-- A local run that succeeds has the output of the program that was started for its target. -/
theorem of_invoke (off : w.settings.dbt.enabled = false) (orderly : w.machine.IsOrderly)
    (hv : i.validate = .ok t) (h : w.invoke i = .ok (result, w'))
    (success : result.succeeded = true) :
    ∃ files vars place command b, w.machine.start files vars place command = .ok b ∧
      command.IsOn w.config t ∧ b.exit.code.any isSuccess = true ∧
      result.lines = outputLines i.kind b.exit.output := by
  obtain ⟨t', same, early | ⟨r, v, running, ended⟩⟩ := invoke_cases off h
  · rw [eq_of_beginLocal_over early] at success
    cases success
  · obtain rfl : t = t' := Except.ok.inj (hv.symm.trans same)
    obtain ⟨files, vars, place, command, b, starts, on, does⟩ := of_beginLocal_running orderly running
    rw [show result = (v.await r).1 by rw [ended]] at success ⊢
    obtain ⟨code, lines⟩ := of_await does success
    rw [kind_of_beginLocal running] at lines
    exact ⟨files, vars, place, command, b, starts, on, code, lines⟩

end Workspace

end SqlLint
