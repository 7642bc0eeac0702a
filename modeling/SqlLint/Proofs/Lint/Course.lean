import Mathlib.Data.List.Nodup
import SqlLint.Proofs.Lint.History

/-!
# What becomes of the tasks of a delayer

A `Course` is a delayer with its worker and a record of the tasks: which were handed in, which were
started, and which have ended.  `Course.Move` names what may happen next: tasks are handed in at any
moment, by anyone; the worker takes the task that is due, runs it to its end, and only then tells the
delayer; the delayer may be given up.  A history is any list of moves, so that all interleavings are
among them.  The tasks of a course are numbered as they are handed in, so that no two are the same.

Three things carry the proofs: what every course is like (`IsOrderly`), what may still be started
after a moment (`Follows`), and that nothing is after the delayer was given up.  Together they are
`tasks_of_follow?`.
-/

namespace SqlLint

/-- Where the worker of a delayer stands: it waits for a task, it runs one, it has run one and has not
yet said so, or it is gone for good. -/
inductive Stand (α : Type) where
  | waiting
  | running (task : α)
  | done
  | gone
  deriving DecidableEq, Repr

/-- The task that the worker runs. -/
def Stand.task? {α : Type} : Stand α → Option α
  | .running task => some task
  | _ => none

/-- The worker has taken a task and has not yet said that it ended. -/
def Stand.isBusy {α : Type} : Stand α → Bool
  | .running _ | .done => true
  | _ => false

/-- A delayer with its worker, and the tasks that were handed in, started and have ended, each list
in the order in which that happened. -/
structure Course (α : Type) where
  delayer : Delayer (Nat × α)
  worker : Stand (Nat × α) := .waiting
  triggered : List (Nat × α) := []
  started : List (Nat × α) := []
  ended : List (Nat × α) := []
  deriving DecidableEq, Repr

namespace Course

/-- What may happen next to a delayer: a task is handed in at a moment, the worker takes the task
that is due at a moment, its task ends, it says so, it leaves, or the delayer is given up. -/
inductive Move (α : Type) where
  | trigger (now : Nat) (task : α)
  | take (now : Nat)
  | ended
  | finish
  | leave
  | close
  deriving DecidableEq, Repr

variable {α : Type} {c c' c'' d : Course α} {x : Move α} {h : List (Move α)}

/-- A delayer to which nothing was handed in. -/
def new (delay : Nat) : Course α := { delayer := { delay } }

/-- The tasks that were started and have not ended. -/
def executing (c : Course α) : List (Nat × α) := c.started.drop c.ended.length

/-- The course after a move; none if it cannot be made. -/
def move? (c : Course α) : Move α → Option (Course α)
  | .trigger now task =>
    let task := (c.triggered.length, task)
    some { c with delayer := c.delayer.trigger now task, triggered := c.triggered ++ [task] }
  | .take now =>
    match c.worker with
    | .waiting => (c.delayer.take? now).map fun (task, delayer) =>
        { c with delayer, worker := .running task, started := c.started ++ [task] }
    | _ => none
  | .ended =>
    match c.worker with
    | .running task => some { c with worker := .done, ended := c.ended ++ [task] }
    | _ => none
  | .finish =>
    match c.worker with
    | .done => some { c with delayer := c.delayer.finish, worker := .waiting }
    | _ => none
  | .leave =>
    match c.worker with
    | .waiting => if c.delayer.isClosed then some { c with worker := .gone } else none
    | _ => none
  | .close => some { c with delayer := c.delayer.close }

/-- The course after a history; none if one of its moves cannot be made. -/
def follow? (c : Course α) (h : List (Move α)) : Option (Course α) := h.foldlM move? c

/-- What every move preserves holds after every history. -/
theorem follow?_preserves {P : Course α → Prop}
    (step : ∀ c x c', P c → c.move? x = some c' → P c') (hc : P c) (hd : c.follow? h = some d) :
    P d :=
  foldlM_preserves step hc hd

/-- What a move does: it hands in a task, or the worker takes the one that waits, ends it, says so or
leaves, or the delayer is given up. -/
inductive Step (c : Course α) : Course α → Prop where
  | triggered (now : Nat) (task : α) :
      Step c { c with
        delayer := c.delayer.trigger now (c.triggered.length, task)
        triggered := c.triggered ++ [(c.triggered.length, task)] }
  | taken (task : Nat × α) : c.worker = .waiting → c.delayer.isClosed = false →
      c.delayer.task = some task →
      Step c { c with
        delayer := { c.delayer with task := none, deadline := none, isRunning := true }
        worker := .running task, started := c.started ++ [task] }
  | ended (task : Nat × α) : c.worker = .running task →
      Step c { c with worker := .done, ended := c.ended ++ [task] }
  | finished : c.worker = .done → Step c { c with delayer := c.delayer.finish, worker := .waiting }
  | left : c.worker = .waiting → Step c { c with worker := .gone }
  | closed : Step c { c with delayer := c.delayer.close }

theorem step_of_take? {now : Nat} {task : Nat × α} {delayer : Delayer (Nat × α)}
    (waits : c.worker = .waiting) (htake : c.delayer.take? now = some (task, delayer)) :
    Step c { c with delayer, worker := .running task, started := c.started ++ [task] } := by
  obtain ⟨opened, -, -, htask, rfl⟩ := Delayer.take?_eq_some htake
  exact .taken task waits opened htask

theorem step_of_move? (hx : c.move? x = some c') : Step c c' := by
  cases x with
  | trigger now task =>
    obtain rfl := Option.some.inj hx
    exact .triggered now task
  | close =>
    obtain rfl := Option.some.inj hx
    exact .closed
  | take now =>
    simp only [move?] at hx
    split at hx
    · next waits =>
      obtain ⟨⟨task, delayer⟩, htake, rfl⟩ := Option.map_eq_some_iff.1 hx
      exact step_of_take? waits htake
    · cases hx
  | ended =>
    simp only [move?] at hx
    split at hx
    · next task runs =>
      obtain rfl := Option.some.inj hx
      exact .ended task runs
    · cases hx
  | finish =>
    simp only [move?] at hx
    split at hx
    · next done =>
      obtain rfl := Option.some.inj hx
      exact .finished done
    · cases hx
  | leave =>
    simp only [move?] at hx
    split at hx
    · next waits =>
      split at hx
      · obtain rfl := Option.some.inj hx
        exact .left waits
      · cases hx
    · cases hx

/-! ## What holds of every course -/

/-- The tasks have their numbers; the delayer knows whether its worker is busy; what was started has
ended but for the task that runs; the task that waits was handed in last and has not been started;
and if no task waits, the last one was started, unless the delayer was given up. -/
structure IsOrderly (c : Course α) : Prop where
  numbers : c.triggered.map Prod.fst = List.range c.triggered.length
  busy : c.delayer.isRunning = c.worker.isBusy
  started_eq : c.started = c.ended ++ c.worker.task?.toList
  started_sublist : c.started.Sublist c.triggered
  waits : ∀ task, c.delayer.task = some task →
    ∃ before, c.triggered = before ++ [task] ∧ c.started.Sublist before
  last : c.delayer.isClosed = false → c.delayer.task = none →
    c.started.getLast? = c.triggered.getLast?

theorem isOrderly_new (delay : Nat) : (new delay : Course α).IsOrderly where
  numbers := rfl
  busy := rfl
  started_eq := rfl
  started_sublist := .slnil
  waits := by
    rintro task ⟨⟩
  last _ _ := rfl

theorem IsOrderly.trigger (orderly : c.IsOrderly) (now : Nat) (task : α) :
    IsOrderly { c with
      delayer := c.delayer.trigger now (c.triggered.length, task)
      triggered := c.triggered ++ [(c.triggered.length, task)] } where
  numbers := by simp [orderly.numbers, List.range_succ]
  busy := orderly.busy
  started_eq := orderly.started_eq
  started_sublist := orderly.started_sublist.trans (List.sublist_append_left ..)
  waits := by
    rintro _ ⟨⟩
    exact ⟨c.triggered, rfl, orderly.started_sublist⟩
  last _ never := by cases never

theorem IsOrderly.take (orderly : c.IsOrderly) {task : Nat × α} (waits : c.worker = .waiting)
    (htask : c.delayer.task = some task) :
    IsOrderly { c with
      delayer := { c.delayer with task := none, deadline := none, isRunning := true }
      worker := .running task, started := c.started ++ [task] } := by
  obtain ⟨before, triggered, started⟩ := orderly.waits task htask
  -- All that was started comes from before the task, so that the task may stand behind it.
  refine ⟨orderly.numbers, rfl, ?_, ?_, by rintro _ ⟨⟩, fun _ _ => ?_⟩
  · show c.started ++ [task] = c.ended ++ [task]
    rw [orderly.started_eq, waits]
    simp [Stand.task?]
  · show (c.started ++ [task]).Sublist c.triggered
    exact triggered ▸ started.append_right [task]
  · show (c.started ++ [task]).getLast? = c.triggered.getLast?
    rw [triggered, List.getLast?_concat, List.getLast?_concat]

theorem IsOrderly.step (orderly : c.IsOrderly) (h : Step c c') : c'.IsOrderly := by
  cases h with
  | triggered now task => exact orderly.trigger now task
  | taken task waits _ htask => exact orderly.take waits htask
  | ended task runs =>
    refine ⟨orderly.numbers, ?_, ?_, orderly.started_sublist, orderly.waits, orderly.last⟩
    · exact orderly.busy.trans (by rw [runs]; rfl)
    · show c.started = c.ended ++ [task] ++ []
      rw [orderly.started_eq, runs, List.append_nil]
      rfl
  | finished done =>
    refine ⟨orderly.numbers, rfl, ?_, orderly.started_sublist, orderly.waits, orderly.last⟩
    exact orderly.started_eq.trans (by rw [done]; rfl)
  | left waits =>
    refine ⟨orderly.numbers, ?_, ?_, orderly.started_sublist, orderly.waits, orderly.last⟩
    · exact orderly.busy.trans (by rw [waits]; rfl)
    · exact orderly.started_eq.trans (by rw [waits]; rfl)
  | closed =>
    -- What waited is lost, so that nothing is promised of the last task any more.
    exact ⟨orderly.numbers, orderly.busy, orderly.started_eq, orderly.started_sublist,
      by rintro _ ⟨⟩, by rintro ⟨⟩⟩

theorem IsOrderly.follow? (orderly : c.IsOrderly) (hd : c.follow? h = some d) : d.IsOrderly :=
  follow?_preserves (fun _ _ _ orderly hx => orderly.step (step_of_move? hx)) orderly hd

/-- A worker that waits takes the task that is due from a delayer that was not given up: the delayer
never holds it back for a task that runs. -/
theorem IsOrderly.take?_of_waiting (orderly : c.IsOrderly) (waits : c.worker = .waiting) (now : Nat) :
    c.delayer.take? now =
      if c.delayer.isClosed ∨ ¬ c.delayer.isDue now then none
      else c.delayer.task.map fun task =>
        (task, { c.delayer with task := none, deadline := none, isRunning := true }) := by
  have free : c.delayer.isRunning = false := by
    rw [orderly.busy, waits]
    rfl
  simp [Delayer.take?, free]

theorem IsOrderly.executing_eq (orderly : c.IsOrderly) : c.executing = c.worker.task?.toList := by
  rw [executing, orderly.started_eq, List.drop_left]

theorem IsOrderly.executing_length_le (orderly : c.IsOrderly) : c.executing.length ≤ 1 := by
  rw [orderly.executing_eq]
  cases c.worker.task? <;> simp

theorem IsOrderly.triggered_nodup (orderly : c.IsOrderly) : c.triggered.Nodup := by
  have numbers : (c.triggered.map Prod.fst).Nodup := orderly.numbers ▸ List.nodup_range
  exact numbers.of_map

/-- The number of a task is its place among the tasks handed in. -/
theorem IsOrderly.fst_eq (orderly : c.IsOrderly) {i : Nat} {task : Nat × α}
    (h : c.triggered[i]? = some task) : task.1 = i := by
  obtain ⟨hi, -⟩ := List.getElem?_eq_some_iff.1 h
  have number : (c.triggered.map Prod.fst)[i]? = some task.1 := by
    rw [List.getElem?_map, h]
    rfl
  rw [orderly.numbers, List.getElem?_range hi] at number
  exact (Option.some.inj number).symm

theorem IsOrderly.fst_lt (orderly : c.IsOrderly) {task : Nat × α} (h : task ∈ c.triggered) :
    task.1 < c.triggered.length := by
  obtain ⟨i, hi⟩ := List.mem_iff_getElem?.1 h
  rw [orderly.fst_eq hi]
  exact (List.getElem?_eq_some_iff.1 hi).1

theorem IsOrderly.le_fst (orderly : c.IsOrderly) {n : Nat} {task : Nat × α}
    (h : task ∈ c.triggered.drop n) : n ≤ task.1 := by
  obtain ⟨i, hi⟩ := List.mem_iff_getElem?.1 h
  rw [List.getElem?_drop] at hi
  rw [orderly.fst_eq hi]
  exact Nat.le_add_right ..

/-- Once the delayer is idle, the task handed in last has ended, unless the delayer was given up. -/
theorem IsOrderly.ended_getLast? (orderly : c.IsOrderly) (opened : c.delayer.isClosed = false)
    (idle : c.delayer.isIdle = true) : c.ended.getLast? = c.triggered.getLast? := by
  obtain ⟨noTask, notRunning⟩ := Bool.and_eq_true_iff.1 idle
  have noTask : c.delayer.task = none := by simpa using noTask
  have free : c.worker.isBusy = false := by
    rw [← orderly.busy]
    simpa using notRunning
  have allEnded : c.started = c.ended := by
    rw [orderly.started_eq]
    cases hw : c.worker with
    | running task => rw [hw] at free; cases free
    | waiting | done | gone => exact List.append_nil _
  rw [← allEnded]
  exact orderly.last opened noTask

/-! ## What may still be started -/

/-- What was started or waits in `d` was started in `c` before, was the last task handed in by then,
or was handed in later. -/
structure Follows (c d : Course α) : Prop where
  triggered : c.triggered.length ≤ d.triggered.length
  started : ∀ task ∈ d.started,
    task ∈ c.started ∨ c.triggered.getLast? = some task ∨ c.triggered.length ≤ task.1
  waits : ∀ task, d.delayer.task = some task →
    c.triggered.getLast? = some task ∨ c.triggered.length ≤ task.1

theorem IsOrderly.follows (orderly : c.IsOrderly) : c.Follows c where
  triggered := Nat.le_refl _
  started _ h := .inl h
  waits task h := by
    obtain ⟨before, triggered, -⟩ := orderly.waits task h
    exact .inl (by rw [triggered, List.getLast?_concat])

theorem Follows.step (follows : c.Follows d) (h : Step d c') : c.Follows c' := by
  cases h with
  | triggered now task =>
    -- The task takes the place of the one that waited, and its number is a later one.
    refine ⟨?_, follows.started, ?_⟩
    · exact Nat.le_trans follows.triggered (by simp)
    · rintro _ ⟨⟩
      exact .inr follows.triggered
  | taken task _ _ htask =>
    refine ⟨follows.triggered, fun task' h => ?_, by rintro _ ⟨⟩⟩
    obtain earlier | now := List.mem_append.1 h
    · exact follows.started task' earlier
    · obtain rfl := List.mem_singleton.1 now
      exact .inr (follows.waits task' htask)
  | ended => exact ⟨follows.triggered, follows.started, follows.waits⟩
  | finished => exact ⟨follows.triggered, follows.started, follows.waits⟩
  | left => exact ⟨follows.triggered, follows.started, follows.waits⟩
  | closed => exact ⟨follows.triggered, follows.started, by rintro _ ⟨⟩⟩

theorem IsOrderly.follows_of_follow? (orderly : c.IsOrderly) (hd : c.follow? h = some d) :
    c.Follows d :=
  follow?_preserves (fun _ _ _ follows hx => follows.step (step_of_move? hx)) orderly.follows hd

/-- Of the tasks handed in while none is started, only the last one is ever started. -/
theorem IsOrderly.getLast?_of_mem_started (orderly : c.IsOrderly) (orderly' : c'.IsOrderly)
    (same : c'.started = c.started) (hd : c'.follow? h = some d) {task : Nat × α}
    (meanwhile : task ∈ c'.triggered.drop c.triggered.length) (starts : task ∈ d.started) :
    c'.triggered.getLast? = some task := by
  -- Its number tells that the task came after `c` and not after `c'`.
  have late : c.triggered.length ≤ task.1 := orderly'.le_fst meanwhile
  have early : task.1 < c'.triggered.length := orderly'.fst_lt (List.mem_of_mem_drop meanwhile)
  obtain before | last | later := (orderly'.follows_of_follow? hd).started task starts
  · have old := orderly.fst_lt (orderly.started_sublist.subset (same ▸ before))
    omega
  · exact last
  · omega

/-- A delayer that was given up starts nothing any more. -/
theorem started_of_isClosed (closed : c.delayer.isClosed = true) (hd : c.follow? h = some d) :
    d.started = c.started := by
  refine (follow?_preserves (P := fun d => d.delayer.isClosed = true ∧ d.started = c.started)
    (fun d x d' hP hx => ?_) ⟨closed, rfl⟩ hd).2
  obtain ⟨closed, same⟩ := hP
  cases step_of_move? hx with
  | taken _ _ opened =>
    rw [closed] at opened
    cases opened
  | closed => exact ⟨rfl, same⟩
  | triggered | ended | finished | left => exact ⟨closed, same⟩

/-- What holds of the tasks of a delayer after every history: one is executed at most at a time, and
the others have ended in the order in which they were started; the tasks started are some of those
handed in, in the same order and none twice; if the delayer is idle and was not given up, the last
task handed in has ended; of the tasks that are handed in during a run, while no other is started,
only the last one is ever started; and none is started after the delayer was given up. -/
theorem tasks_of_follow? (delay : Nat) (hc : (new delay).follow? h = some c) :
    (c.ended ++ c.executing = c.started ∧ c.executing.length ≤ 1) ∧
    (c.started.Sublist c.triggered ∧ c.triggered.Nodup) ∧
    (c.delayer.isClosed = false → c.delayer.isIdle = true →
      c.ended.getLast? = c.triggered.getLast?) ∧
    (∀ g c' g' d, c.follow? g = some c' → c'.started = c.started → c'.follow? g' = some d →
      ∀ task ∈ c'.triggered.drop c.triggered.length, task ∈ d.started →
        c'.triggered.getLast? = some task) ∧
    (c.delayer.isClosed = true → ∀ g d, c.follow? g = some d → d.started = c.started) := by
  have orderly : c.IsOrderly := (isOrderly_new delay).follow? hc
  refine ⟨⟨?_, orderly.executing_length_le⟩, ⟨orderly.started_sublist, orderly.triggered_nodup⟩,
    orderly.ended_getLast?, ?_, fun closed g d hd => started_of_isClosed closed hd⟩
  · rw [orderly.executing_eq, ← orderly.started_eq]
  · intro g c' g' d hc' same hd task meanwhile starts
    exact orderly.getLast?_of_mem_started (orderly.follow? hc') same hd meanwhile starts

/-- A task is handed in and started. -/
def oneStarted : List (Move Char) := [.trigger 0 'a', .take 0]

/-- Two more are handed in meanwhile. -/
def twoMeanwhile : List (Move Char) := [.trigger 1 'b', .trigger 2 'c']

/-- The first task ends, and the worker takes and ends what waits. -/
def restEnded : List (Move Char) := [.ended, .finish, .take 2, .ended, .finish]

theorem tasks_of_follow?_oneStarted :
    ∃ c c' d e : Course Char, (new 0).follow? oneStarted = some c ∧
      c.follow? twoMeanwhile = some c' ∧ c'.started = c.started ∧ c'.follow? restEnded = some d ∧
      (2, 'c') ∈ c'.triggered.drop c.triggered.length ∧ (2, 'c') ∈ d.started ∧
      c'.triggered.getLast? = some (2, 'c') ∧ d.delayer.isIdle = true ∧
      d.ended.getLast? = d.triggered.getLast? ∧ d.follow? [.trigger 3 'd', .close] = some e ∧
      e.follow? [.leave] ≠ none ∧ e.started.Sublist e.triggered ∧
      ∀ g f, e.follow? g = some f → f.started = e.started := by
  refine ⟨_, _, _, _, rfl, rfl, rfl, rfl, by decide, by decide, ?_, rfl, ?_, rfl, by decide, ?_, ?_⟩
  · exact (tasks_of_follow? 0 (h := oneStarted) rfl).2.2.2.1 twoMeanwhile _ restEnded _
      rfl rfl rfl _ (by decide) (by decide)
  · exact (tasks_of_follow? 0 (h := oneStarted ++ twoMeanwhile ++ restEnded) rfl).2.2.1 rfl rfl
  · exact (tasks_of_follow? 0 (h := oneStarted ++ twoMeanwhile ++ restEnded ++
      [.trigger 3 'd', .close]) rfl).2.1.1
  · exact (tasks_of_follow? 0 (h := oneStarted ++ twoMeanwhile ++ restEnded ++
      [.trigger 3 'd', .close]) rfl).2.2.2.2 rfl

end Course

end SqlLint
