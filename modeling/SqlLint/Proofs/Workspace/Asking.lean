import SqlLint.Lint.Run
import SqlLint.Proofs.Workspace.Given
import SqlLint.Workspace.Format

/-!
# What is asked of the machine

`start` is all that a machine knows about commands.  An operation asks only for some commands if it
goes on in the same way wherever these do the same (`AsksOnly`); it asks for one command if what
comes of it depends on that command (`Workspace.Asks`).  A run of the tool asks for the command of its
target and for no other (`asksOnly_invoke`).
-/

namespace SqlLint

/-- What happens to commands. -/
abbrev Programs := Files → List (String × String) → Place → Command → Except OsError Behaviour

/-- What lies on a machine: there it may be put on one with other programs. -/
class OnMachine (τ : Type) where
  withStart : τ → Programs → τ

open OnMachine

instance : OnMachine Machine := ⟨fun m start => { m with start }⟩

instance : OnMachine Workspace := ⟨fun w start => { w with machine := withStart w.machine start }⟩

instance : OnMachine Bench := ⟨fun b start => { b with workspace := withStart b.workspace start }⟩

section

variable {α ε τ : Type} [OnMachine τ]

instance : OnMachine (α × τ) := ⟨fun p start => (p.1, withStart p.2 start)⟩

instance : OnMachine (Option τ) := ⟨fun o start => o.map (withStart · start)⟩

instance : OnMachine (Except ε τ) := ⟨fun r start => r.map (withStart · start)⟩

/-- The operation asks the machine for no commands but these. -/
def AsksOnly (P : Command → Prop) (f : Workspace → τ) (w : Workspace) : Prop :=
  ∀ start : Programs, (∀ files vars place c, P c →
    start files vars place c = w.machine.start files vars place c) →
    f (withStart w start) = withStart (f w) start

/-- The operation asks the machine for a command: what comes of it depends on what the command does. -/
def Workspace.Asks (w : Workspace) (f : Workspace → τ) (c : Command) : Prop :=
  ¬ AsksOnly (· ≠ c) f w

namespace AsksOnly

variable {P Q : Command → Prop} {w : Workspace} {f : Workspace → τ}

theorem mono (h : AsksOnly P f w) (hPQ : ∀ c, P c → Q c) : AsksOnly Q f w := by
  intro start agrees
  exact h start fun files vars place c hc => agrees files vars place c (hPQ c hc)

theorem of_asks (h : AsksOnly P f w) {c : Command} (asks : w.Asks f c) : P c := by
  refine Classical.byContradiction fun out => asks (h.mono fun other hother => ?_)
  rintro rfl
  exact out hother

theorem of_eq {g : Workspace → τ} (same : ∀ start, f (withStart w start) = g (withStart w start))
    (hg : AsksOnly P g w) : AsksOnly P f w := by
  intro start agrees
  have here : f w = g w := same w.machine.start
  rw [same, here]
  exact hg start agrees

theorem map {σ : Type} [OnMachine σ] {h : τ → σ} (hf : AsksOnly P f w)
    (moves : ∀ x start, h (withStart x start) = withStart (h x) start) :
    AsksOnly P (fun w => h (f w)) w := by
  intro start agrees
  show h (f (withStart w start)) = withStart (h (f w)) start
  rw [hf start agrees]
  exact moves _ _

theorem ite {p : Prop} [Decidable p] {g k : Workspace → τ} (hg : p → AsksOnly P g w)
    (hk : ¬ p → AsksOnly P k w) : AsksOnly P (fun w => if p then g w else k w) w := by
  by_cases hp : p
  · exact of_eq (g := g) (fun _ => if_pos hp) (hg hp)
  · exact of_eq (g := k) (fun _ => if_neg hp) (hk hp)

end AsksOnly

end

namespace Workspace

/-! ## Operations that ask for nothing -/

theorem append_withStart (log : OutputLog) (m : Machine) (line : String) (start : Programs) :
    log.append (withStart m start) line = withStart (log.append m line) start := by
  cases log with
  | memory lines => rfl
  | off => rfl
  | file path =>
    have written (bytes : List UInt8) :
        (withStart m start).append? path bytes = withStart (m.append? path bytes) start := by
      show Option.map _ _ = Option.map _ (Option.map _ _)
      rw [Option.map_map]
      rfl
    simp only [OutputLog.append]
    show (_, ((withStart m start).append? path _).getD (withStart m start)) = _
    rw [written]
    show _ = (_, withStart ((m.append? path _).getD m) start)
    cases m.append? path _ <;> rfl

theorem note_withStart (w : Workspace) (lines : List String) (start : Programs) :
    (withStart w start).note lines = withStart (w.note lines) start := by
  unfold note
  induction lines generalizing w with
  | nil => rfl
  | cons line lines ih =>
    rw [List.foldl_cons, List.foldl_cons, ← ih]
    have noted := append_withStart w.log w.machine line start
    show List.foldl _ ({ withStart w start with
      log := (w.log.append (withStart w.machine start) line).1
      machine := (w.log.append (withStart w.machine start) line).2 }) lines = _
    rw [noted]
    rfl

theorem start_note (w : Workspace) (lines : List String) :
    (w.note lines).machine.start = w.machine.start :=
  congrArg (·.machine.start) (note_withStart w lines w.machine.start)

theorem asksOnly_note {α : Type} (P : Command → Prop) (w : Workspace) (a : α)
    (lines : List String) : AsksOnly P (fun w => (a, w.note lines)) w :=
  fun start _ => congrArg (Prod.mk a) (note_withStart w lines start)

theorem complain_withStart (w : Workspace) (s : Settings) (text : String) (start : Programs) :
    (withStart w start).complain s text = withStart (w.complain s text) start := by
  unfold complain
  split <;> rfl

theorem notStarted_withStart (w : Workspace) (c : Config) (e : OsError) (start : Programs) :
    (withStart w start).notStarted c e = withStart (w.notStarted c e) start := by
  unfold notStarted
  rw [note_withStart]
  exact complain_withStart _ _ _ _

theorem track_withStart (w : Workspace) (process : Nat) (start : Programs) :
    (withStart w start).track process = withStart (w.track process) start := by
  have killed (ids : List Nat) (m : Machine) :
      ids.foldl Machine.kill (withStart m start) = withStart (ids.foldl Machine.kill m) start := by
    induction ids generalizing m with
    | nil => rfl
    | cons id ids ih =>
      rw [List.foldl_cons, List.foldl_cons, ← ih]
      rfl
  have all := killed w.registry.evicted w.machine
  show ({ withStart w start with
    machine := w.registry.evicted.foldl Machine.kill (withStart w.machine start)
    registry := w.registry.register process } : Workspace) = _
  rw [all]
  rfl

theorem takeErrors_withStart (w : Workspace) (r : Running) (text : String) (start : Programs) :
    (withStart w start).takeErrors r text = withStart (w.takeErrors r text) start := by
  unfold takeErrors
  dsimp only
  rw [note_withStart]
  split
  · rfl
  · split
    · cases r.relative <;> rfl
    · exact complain_withStart _ _ _ _

theorem finish_withStart (w : Workspace) (r : Running) (e : Exit) (start : Programs) :
    (withStart w start).finish r e = withStart (w.finish r e) start := by
  let removed : Workspace := { w with registry := w.registry.remove r.entry }
  unfold finish
  dsimp only
  show (_, ((withStart removed start).note _).takeErrors r _) = (_, withStart _ start)
  rw [note_withStart, takeErrors_withStart]

theorem collect?_withStart (m : Machine) (id : Nat) (start : Programs) :
    (withStart m start).collect? id = withStart (m.collect? id) start := by
  have same : (withStart m start).processes = m.processes := rfl
  unfold Machine.collect?
  rw [same]
  cases m.processes.find? (·.id = id) with
  | none => rfl
  | some p =>
    dsimp only
    split <;> rfl

theorem await_withStart (w : Workspace) (r : Running) (start : Programs) :
    (withStart w start).await r = withStart (w.await r) start := by
  have collected : ((withStart w start).machine.kill r.process).collect? r.process =
      withStart ((w.machine.kill r.process).collect? r.process) start :=
    collect?_withStart (w.machine.kill r.process) r.process start
  unfold await
  rw [collected]
  cases (w.machine.kill r.process).collect? r.process with
  | none => exact finish_withStart w r _ start
  | some ended => exact finish_withStart { w with machine := ended.2 } r ended.1 start

end Workspace

/-! ## The command of a target -/

/-- The word by which the tool is told of a target: the path of its file, or a dash for a text. -/
def Target.word (t : Target) (dir : Option String) : String :=
  match t with
  | .file path => targetPath path dir
  | .buffer _ _ => "-"

/-- The command has the tool work on a target; the text of a buffer is on its standard input. -/
structure Command.IsOn (command : Command) (c : Config) (t : Target) : Prop where
  exists_arguments : ∃ arguments, (command.program, command.arguments) =
    c.settings.shell.command c.executable (arguments ++ [t.word c.workingDirectory?])
  input_eq : command.input = t.contents?

namespace Workspace

variable {w : Workspace} {c : Config} {i : Invocation} {t : Target}

theorem isOn_command (w v : Workspace) (c : Config) (i : Invocation) (t : Target) :
    (v.command c (w.arguments c i t (t.path?.map fun path => targetPath path c.workingDirectory?))
      t.contents?).IsOn c t := by
  refine ⟨?_, rfl⟩
  cases t with
  | file path => exact ⟨_, rfl⟩
  | buffer contents path =>
    have dash : ∃ arguments, w.arguments c i (.buffer contents path)
        (path.map fun path => targetPath path c.workingDirectory?) = arguments ++ ["-"] :=
      ⟨_, (List.append_assoc _ _ _).symm⟩
    obtain ⟨arguments, h⟩ := dash
    exact ⟨arguments, congrArg (c.settings.shell.command c.executable) h⟩

theorem spawn_withStart {m : Machine} {command : Command} {start : Programs}
    (agrees : ∀ files vars place, start files vars place command =
      m.start files vars place command) :
    (withStart m start).spawn command = withStart (m.spawn command) start := by
  have behaves : (withStart m start).behaviour command = m.behaviour command := by
    unfold Machine.behaviour
    simp only [withStart, agrees]
    rfl
  unfold Machine.spawn
  rw [behaves]
  cases m.behaviour command <;> rfl

theorem asksOnly_beginLocal (w : Workspace) (c : Config) (i : Invocation) (t : Target) :
    AsksOnly (·.IsOn c t) (·.beginLocal c i t) w := by
  intro start agrees
  have same : (withStart w start).arguments c i t = w.arguments c i t := rfl
  have known (v : Workspace) := isOn_command w v c i t
  have asked := start_note w (announcement c t (w.arguments c i t
    (t.path?.map fun path => targetPath path c.workingDirectory?)))
  unfold beginLocal
  dsimp only
  rw [note_withStart, same]
  generalize t.path?.map (fun path => targetPath path c.workingDirectory?) = relative at *
  generalize w.arguments c i t relative = arguments at *
  generalize w.note (announcement c t arguments) = v at *
  show (if v.isIgnored t relative then _ else _) = _
  by_cases ignored : v.isIgnored t relative = true
  · rw [if_pos ignored, if_pos ignored]
    exact congrArg (Prod.mk _) (note_withStart _ _ _)
  · rw [if_neg ignored, if_neg ignored]
    -- Whether the file was ignored before makes no difference to the machine.
    have heeded : ((relative.map v.unignore).getD v).machine = v.machine := by
      cases relative <;> rfl
    have heeded' : (relative.map (withStart v start).unignore).getD (withStart v start) =
        withStart ((relative.map v.unignore).getD v) start := by
      cases relative <;> rfl
    rw [heeded']
    generalize (relative.map v.unignore).getD v = u at *
    have spawned : (withStart u start).machine.spawn
          ((withStart u start).command c arguments t.contents?) =
        withStart (u.machine.spawn (u.command c arguments t.contents?)) start := by
      refine spawn_withStart fun files vars place => ?_
      rw [heeded, asked]
      exact agrees files vars place _ (known u)
    rw [spawned]
    cases u.machine.spawn (u.command c arguments t.contents?) with
    | error e => exact congrArg (Prod.mk _) (notStarted_withStart u c e start)
    | ok p => exact congrArg (Prod.mk _) (track_withStart { u with machine := p.2 } p.1 start)

/-- A run begins locally where there is no dbt server. -/
theorem begin_eq_beginLocal (off : w.settings.dbt.enabled = false) (hv : i.validate = .ok t) :
    w.begin i = .ok (w.beginLocal w.config i t) := by
  rw [begin_eq, hv]
  simp only [off, Bool.false_eq_true, if_false]

/-- The beginning of a local run asks for the command of its target only. -/
theorem asksOnly_begin (off : w.settings.dbt.enabled = false) (hv : i.validate = .ok t) :
    AsksOnly (·.IsOn w.config t) (·.begin i) w := by
  intro start agrees
  have local_ := asksOnly_beginLocal w w.config i t start agrees
  show (withStart w start).begin i = withStart (w.begin i) start
  rw [begin_eq_beginLocal off hv, begin_eq_beginLocal (w := withStart w start) off hv]
  exact congrArg Except.ok local_

theorem asksOnly_invoke (off : w.settings.dbt.enabled = false) (hv : i.validate = .ok t) :
    AsksOnly (·.IsOn w.config t) (·.invoke i) w := by
  intro start agrees
  have begun : (withStart w start).begin i = withStart (w.begin i) start :=
    asksOnly_begin off hv start agrees
  show (withStart w start).invoke i = withStart (w.invoke i) start
  unfold invoke
  rw [begun]
  cases w.begin i with
  | error e => rfl
  | ok p =>
    obtain ⟨result | r, v⟩ := p
    · rfl
    · exact congrArg Except.ok (await_withStart v r start)

end Workspace

end SqlLint
