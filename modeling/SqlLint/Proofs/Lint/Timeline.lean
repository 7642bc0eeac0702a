import SqlLint.Proofs.Lint.Course

/-!
# When tasks are handed in and started

A `Timeline` is a course with a clock and with notes of the moments at which tasks were handed in and
started.  Time passes by any amount between the moves, so that the clock never goes back.  The worker
may wake up at any moment, for whatever reason; it looks at the clock and takes the task that is due in
one breath, and goes on waiting if none is.  A task counts as started when it is taken: from then on
nothing takes its place any more.

What every timeline is like is `IsTimely`.  The one fact from which the others follow is its field
`due`: whenever a task is started, it is the task that was handed in last, and the delay is over.
-/

namespace SqlLint

/-- A note of a task, by its number: it was handed in at a moment, or started. -/
inductive TimeNote where
  | triggered (task moment : Nat)
  | started (task moment : Nat)
  deriving DecidableEq, Repr

namespace TimeNote

/-- The moment of a note. -/
def moment : TimeNote → Nat
  | .triggered _ moment => moment
  | .started _ moment => moment

/-- The task that was handed in, and when. -/
def trigger? : TimeNote → Option (Nat × Nat)
  | .triggered task moment => some (task, moment)
  | .started .. => none

/-- The task that was started, and when. -/
def start? : TimeNote → Option (Nat × Nat)
  | .triggered .. => none
  | .started task moment => some (task, moment)

/-- The task that was handed in last, and when. -/
def lastTrigger? (notes : List TimeNote) : Option (Nat × Nat) := (notes.filterMap trigger?).getLast?

/-- Each task that was started had been handed in last, and the delay was over. -/
def AreDue (delay : Nat) (notes : List TimeNote) : Prop :=
  ∀ before task moment after, notes = before ++ .started task moment :: after →
    ∃ since, lastTrigger? before = some (task, since) ∧ since + delay ≤ moment

theorem areDue_nil (delay : Nat) : AreDue delay [] := by
  intro before task moment after h
  cases before <;> cases h

theorem AreDue.concat {delay : Nat} {notes : List TimeNote} {note : TimeNote}
    (due : AreDue delay notes)
    (last : ∀ task moment, note = .started task moment →
      ∃ since, lastTrigger? notes = some (task, since) ∧ since + delay ≤ moment) :
    AreDue delay (notes ++ [note]) := by
  intro before task moment after h
  obtain rfl | ⟨after', end_, rfl⟩ := List.eq_nil_or_concat after
  · obtain ⟨rfl, rfl⟩ := List.append_inj' h rfl |>.imp_right List.singleton_inj.1
    exact last task moment rfl
  · rw [List.concat_eq_append, ← List.cons_append, ← List.append_assoc] at h
    exact due before task moment after' (List.append_inj' h rfl).1

end TimeNote

/-- A delayer with its worker, the moment, and the notes made so far. -/
structure Timeline (α : Type) where
  course : Course α
  now : Nat := 0
  notes : List TimeNote := []
  deriving DecidableEq, Repr

namespace Timeline

/-- What may happen next: time passes, a task is handed in, the worker wakes up, its task ends, it says
so, it leaves, or the delayer is given up. -/
inductive Move (α : Type) where
  | pass (millis : Nat)
  | trigger (task : α)
  | wake
  | ended
  | finish
  | leave
  | close
  deriving DecidableEq, Repr

variable {α : Type} {t t' : Timeline α} {x : Move α} {h : List (Move α)} {delay : Nat}

/-- A delayer to which nothing was handed in. -/
def new (delay : Nat) : Timeline α := { course := .new delay }

/-- The tasks handed in, each with its moment. -/
def triggers (t : Timeline α) : List (Nat × Nat) := t.notes.filterMap TimeNote.trigger?

/-- The tasks started, each with its moment. -/
def starts (t : Timeline α) : List (Nat × Nat) := t.notes.filterMap TimeNote.start?

/-- The timeline after a move of the course that needs no clock. -/
def with? (t : Timeline α) (x : Course.Move α) : Option (Timeline α) :=
  (t.course.move? x).map fun course => { t with course }

/-- The timeline after a move; none if it cannot be made. -/
def move? (t : Timeline α) : Move α → Option (Timeline α)
  | .pass millis => some { t with now := t.now + millis }
  | .trigger task => (t.course.move? (.trigger t.now task)).map fun course =>
      { t with course, notes := t.notes ++ [.triggered t.course.triggered.length t.now] }
  | .wake =>
    match t.course.worker with
    | .waiting =>
      match t.course.delayer.take? t.now with
      | none => some t
      | some (task, _) => (t.course.move? (.take t.now)).map fun course =>
          { t with course, notes := t.notes ++ [.started task.1 t.now] }
    | _ => none
  | .ended => t.with? .ended
  | .finish => t.with? .finish
  | .leave => t.with? .leave
  | .close => t.with? .close

/-- The timeline after a history; none if one of its moves cannot be made. -/
def follow? (t : Timeline α) (h : List (Move α)) : Option (Timeline α) := h.foldlM move? t

/-- What a move does: time passes, or none does; a task is handed in; the task that is due is started;
or the course goes on with the same tasks, and what waits goes on waiting or is lost. -/
inductive Step (t : Timeline α) : Timeline α → Prop where
  | passed (millis : Nat) : Step t { t with now := t.now + millis }
  | triggered (task : α) :
      Step t { t with
        course := { t.course with
          delayer := t.course.delayer.trigger t.now (t.course.triggered.length, task)
          triggered := t.course.triggered ++ [(t.course.triggered.length, task)] }
        notes := t.notes ++ [.triggered t.course.triggered.length t.now] }
  | started (task : Nat × α) (waits : t.course.worker = .waiting)
      (htask : t.course.delayer.task = some task) (due : t.course.delayer.isDue t.now = true) :
      Step t { t with
        course := { t.course with
          delayer := { t.course.delayer with task := none, deadline := none, isRunning := true }
          worker := .running task, started := t.course.started ++ [task] }
        notes := t.notes ++ [.started task.1 t.now] }
  | worked (course : Course α) (step : t.course.Step course)
      (delay : course.delayer.delay = t.course.delayer.delay)
      (triggered : course.triggered = t.course.triggered)
      (started : course.started = t.course.started)
      (waits : ∀ task, course.delayer.task = some task →
        t.course.delayer.task = some task ∧ course.delayer.deadline = t.course.delayer.deadline) :
      Step t { t with course }

theorem step_of_with? {y : Course.Move α} (h : t.with? y = some t')
    (timeless : y = .ended ∨ y = .finish ∨ y = .leave ∨ y = .close) : Step t t' := by
  obtain ⟨course, hy, rfl⟩ := Option.map_eq_some_iff.1 h
  have step := Course.step_of_move? hy
  rcases timeless with rfl | rfl | rfl | rfl
  · simp only [Course.move?] at hy
    split at hy
    · obtain rfl := Option.some.inj hy
      exact .worked _ step rfl rfl rfl fun _ h => ⟨h, rfl⟩
    · cases hy
  · simp only [Course.move?] at hy
    split at hy
    · obtain rfl := Option.some.inj hy
      exact .worked _ step rfl rfl rfl fun _ h => ⟨h, rfl⟩
    · cases hy
  · simp only [Course.move?] at hy
    split at hy
    · split at hy
      · obtain rfl := Option.some.inj hy
        exact .worked _ step rfl rfl rfl fun _ h => ⟨h, rfl⟩
      · cases hy
    · cases hy
  · obtain rfl := Option.some.inj hy
    exact .worked _ step rfl rfl rfl (by rintro _ ⟨⟩)

theorem step_of_move? (hx : t.move? x = some t') : Step t t' := by
  cases x with
  | pass millis =>
    obtain rfl := Option.some.inj hx
    exact .passed millis
  | trigger task =>
    obtain rfl := Option.some.inj hx
    exact .triggered task
  | wake =>
    simp only [move?] at hx
    split at hx
    · next waits =>
      split at hx
      · obtain rfl := Option.some.inj hx
        exact .passed 0
      · next task delayer htake =>
        obtain ⟨-, -, due, htask, rfl⟩ := Delayer.take?_eq_some htake
        simp only [Course.move?, waits, htake] at hx
        obtain rfl := Option.some.inj hx
        exact .started task waits htask due
    · cases hx
  | ended => exact step_of_with? hx (.inl rfl)
  | finish => exact step_of_with? hx (.inr (.inl rfl))
  | leave => exact step_of_with? hx (.inr (.inr (.inl rfl)))
  | close => exact step_of_with? hx (.inr (.inr (.inr rfl)))

/-! ## What holds of every timeline -/

/-- The notes tell of the tasks of the course, in the order in which things happened and none of the
future; the task that waits was handed in last and may start when the delay is over; and each task
that was started was due. -/
structure IsTimely (delay : Nat) (t : Timeline α) : Prop where
  orderly : t.course.IsOrderly
  delay_eq : t.course.delayer.delay = delay
  triggers_eq : t.triggers.map Prod.fst = t.course.triggered.map Prod.fst
  starts_eq : t.starts.map Prod.fst = t.course.started.map Prod.fst
  ordered : t.notes.Pairwise (·.moment ≤ ·.moment)
  past : ∀ note ∈ t.notes, note.moment ≤ t.now
  waits : ∀ task, t.course.delayer.task = some task → ∃ since,
    TimeNote.lastTrigger? t.notes = some (task.1, since) ∧
      t.course.delayer.deadline = some (since + delay)
  due : TimeNote.AreDue delay t.notes

theorem isTimely_new (delay : Nat) : (new delay : Timeline α).IsTimely delay where
  orderly := Course.isOrderly_new delay
  delay_eq := rfl
  triggers_eq := rfl
  starts_eq := rfl
  ordered := .nil
  past := by
    rintro _ ⟨⟩
  waits := by
    rintro _ ⟨⟩
  due := TimeNote.areDue_nil delay

theorem triggers_concat (t : Timeline α) (course : Course α) (note : TimeNote) :
    ({ t with course, notes := t.notes ++ [note] } : Timeline α).triggers =
      t.triggers ++ note.trigger?.toList := by
  rw [triggers, triggers, List.filterMap_append]
  cases note <;> rfl

theorem starts_concat (t : Timeline α) (course : Course α) (note : TimeNote) :
    ({ t with course, notes := t.notes ++ [note] } : Timeline α).starts =
      t.starts ++ note.start?.toList := by
  rw [starts, starts, List.filterMap_append]
  cases note <;> rfl

theorem IsTimely.ordered_concat (timely : t.IsTimely delay) {note : TimeNote}
    (h : note.moment = t.now) : (t.notes ++ [note]).Pairwise (·.moment ≤ ·.moment) := by
  refine List.pairwise_append.2 ⟨timely.ordered, List.pairwise_singleton .., ?_⟩
  intro earlier mem later last
  obtain rfl := List.mem_singleton.1 last
  exact h ▸ timely.past earlier mem

theorem IsTimely.past_concat (timely : t.IsTimely delay) {note : TimeNote}
    (h : note.moment = t.now) : ∀ note' ∈ t.notes ++ [note], note'.moment ≤ t.now := by
  intro note' mem
  obtain earlier | last := List.mem_append.1 mem
  · exact timely.past note' earlier
  · obtain rfl := List.mem_singleton.1 last
    exact Nat.le_of_eq h

theorem IsTimely.trigger (timely : t.IsTimely delay) (task : α) :
    IsTimely delay { t with
      course := { t.course with
        delayer := t.course.delayer.trigger t.now (t.course.triggered.length, task)
        triggered := t.course.triggered ++ [(t.course.triggered.length, task)] }
      notes := t.notes ++ [.triggered t.course.triggered.length t.now] } where
  orderly := timely.orderly.trigger t.now task
  delay_eq := timely.delay_eq
  triggers_eq := by
    rw [triggers_concat, List.map_append, List.map_append, timely.triggers_eq]
    rfl
  starts_eq := by
    rw [starts_concat]
    exact (congrArg _ (List.append_nil _)).trans timely.starts_eq
  ordered := timely.ordered_concat rfl
  past := timely.past_concat rfl
  waits := by
    rintro _ ⟨⟩
    refine ⟨t.now, ?_, congrArg (fun d => some (t.now + d)) timely.delay_eq⟩
    rw [TimeNote.lastTrigger?, List.filterMap_append]
    exact List.getLast?_concat
  due := timely.due.concat (by rintro _ _ ⟨⟩)

theorem IsTimely.start (timely : t.IsTimely delay) {task : Nat × α}
    (waits : t.course.worker = .waiting) (htask : t.course.delayer.task = some task)
    (due : t.course.delayer.isDue t.now = true) :
    IsTimely delay { t with
      course := { t.course with
        delayer := { t.course.delayer with task := none, deadline := none, isRunning := true }
        worker := .running task, started := t.course.started ++ [task] }
      notes := t.notes ++ [.started task.1 t.now] } where
  orderly := timely.orderly.take waits htask
  delay_eq := timely.delay_eq
  triggers_eq := by
    rw [triggers_concat]
    exact (congrArg _ (List.append_nil _)).trans timely.triggers_eq
  starts_eq := by
    rw [starts_concat, List.map_append, List.map_append, timely.starts_eq]
    rfl
  ordered := timely.ordered_concat rfl
  past := timely.past_concat rfl
  waits := by
    rintro _ ⟨⟩
  due := by
    refine timely.due.concat ?_
    rintro _ _ ⟨⟩
    obtain ⟨since, last, deadline⟩ := timely.waits task htask
    rw [Delayer.isDue, deadline] at due
    exact ⟨since, last, of_decide_eq_true due⟩

theorem IsTimely.step (timely : t.IsTimely delay) (h : Step t t') : t'.IsTimely delay := by
  cases h with
  | passed millis =>
    exact { timely with
      past := fun note mem => Nat.le_trans (timely.past note mem) (Nat.le_add_right ..) }
  | triggered task => exact timely.trigger task
  | started task waits htask due => exact timely.start waits htask due
  | worked course step delay triggered started waits =>
    refine { timely with
      orderly := timely.orderly.step step
      delay_eq := delay.trans timely.delay_eq
      triggers_eq := timely.triggers_eq.trans (congrArg _ triggered.symm)
      starts_eq := timely.starts_eq.trans (congrArg _ started.symm)
      waits := fun task htask => ?_ }
    obtain ⟨htask, same⟩ := waits task htask
    rw [same]
    exact timely.waits task htask

theorem IsTimely.follow? (timely : t.IsTimely delay) (ht : t.follow? h = some t') :
    t'.IsTimely delay :=
  foldlM_preserves (fun _ _ _ timely hx => timely.step (step_of_move? hx)) timely ht

/-! ## What may be started, and when -/

theorem mem_triggers {task since : Nat} :
    (task, since) ∈ t.triggers ↔ TimeNote.triggered task since ∈ t.notes := by
  rw [triggers, List.mem_filterMap]
  constructor
  · rintro ⟨note, mem, h⟩
    cases note with
    | triggered =>
      cases h
      exact mem
    | started => cases h
  · exact fun mem => ⟨_, mem, rfl⟩

theorem mem_starts {task moment : Nat} :
    (task, moment) ∈ t.starts ↔ TimeNote.started task moment ∈ t.notes := by
  rw [starts, List.mem_filterMap]
  constructor
  · rintro ⟨note, mem, h⟩
    cases note with
    | triggered => cases h
    | started =>
      cases h
      exact mem
  · exact fun mem => ⟨_, mem, rfl⟩

/-- Tasks are numbered in the order in which they were handed in. -/
theorem IsTimely.triggers_lt (timely : t.IsTimely delay) :
    t.triggers.Pairwise fun s s' => s.1 < s'.1 := by
  have numbers : (t.triggers.map Prod.fst).Pairwise (· < ·) := by
    rw [timely.triggers_eq, timely.orderly.numbers]
    exact List.pairwise_lt_range
  exact List.pairwise_map.1 numbers

/-- A task was handed in at one moment. -/
theorem IsTimely.eq_of_mem_triggers (timely : t.IsTimely delay) {task since since' : Nat}
    (h : (task, since) ∈ t.triggers) (h' : (task, since') ∈ t.triggers) : since = since' := by
  have once : (t.triggers.map Prod.fst).Nodup :=
    (List.pairwise_map.2 timely.triggers_lt).imp Nat.ne_of_lt
  exact congrArg Prod.snd (List.inj_on_of_nodup_map once h h' rfl)

theorem IsTimely.starts_nodup (timely : t.IsTimely delay) : (t.starts.map Prod.fst).Nodup := by
  have numbers : (t.course.triggered.map Prod.fst).Nodup := by
    rw [timely.orderly.numbers]
    exact List.nodup_range
  rw [timely.starts_eq]
  exact (timely.orderly.started_sublist.map Prod.fst).nodup numbers

/-- No task that was handed in before another one has a greater number than the last of them. -/
theorem IsTimely.le_of_lastTrigger? (timely : t.IsTimely delay) {before after : List TimeNote}
    {last since : Nat} (split : t.notes = before ++ after)
    (hlast : TimeNote.lastTrigger? before = some (last, since)) {task moment : Nat}
    (mem : .triggered task moment ∈ before) : task ≤ last := by
  obtain ⟨earlier, hearlier⟩ := List.getLast?_eq_some_iff.1 hlast
  have increasing : (before.filterMap TimeNote.trigger?).Pairwise fun s s' => s.1 < s'.1 := by
    have all := timely.triggers_lt
    rw [triggers, split, List.filterMap_append] at all
    exact (List.pairwise_append.1 all).1
  have found : (task, moment) ∈ before.filterMap TimeNote.trigger? :=
    List.mem_filterMap.2 ⟨_, mem, rfl⟩
  rw [hearlier] at increasing found
  obtain before | same := List.mem_append.1 found
  · exact Nat.le_of_lt
      ((List.pairwise_append.1 increasing).2.2 _ before _ (List.mem_singleton_self _))
  · exact Nat.le_of_eq (congrArg Prod.fst (List.mem_singleton.1 same))

/-- A task after which another one was handed in before the delay was over is never started. -/
theorem IsTimely.not_mem_starts (timely : t.IsTimely delay) {task since later next : Nat}
    (htask : (task, since) ∈ t.triggers) (hlater : (later, next) ∈ t.triggers)
    (order : task < later) (soon : next < since + delay) (moment : Nat) :
    (task, moment) ∉ t.starts := by
  intro starts
  obtain ⟨before, after, split⟩ := List.append_of_mem (mem_starts.1 starts)
  obtain ⟨since', last, quiet⟩ := timely.due before task moment after split
  have same : since' = since := by
    refine timely.eq_of_mem_triggers (mem_triggers.2 ?_) htask
    obtain ⟨note, mem, h⟩ := List.mem_filterMap.1 (List.mem_of_getLast? last)
    cases note with
    | triggered =>
      cases h
      exact split ▸ List.mem_append_left _ mem
    | started => cases h
  -- The other task is not among those before the start, and those after it were too late.
  have mem := mem_triggers.1 hlater
  rw [split] at mem
  obtain early | now | late := List.mem_append.1 mem |>.imp_right List.mem_cons.1
  · have := timely.le_of_lastTrigger? split last early
    omega
  · cases now
  · have ordered := timely.ordered
    rw [split] at ordered
    have : moment ≤ next :=
      List.rel_of_pairwise_cons (List.pairwise_append.1 ordered).2.1 late
    omega

/-- A worker that waits takes the task that was handed in last, if that has not been started, and only
when the delay is over. -/
theorem IsTimely.wake (timely : t.IsTimely delay) (waits : t.course.worker = .waiting)
    (opened : t.course.delayer.isClosed = false) {task since : Nat}
    (last : TimeNote.lastTrigger? t.notes = some (task, since))
    (fresh : task ∉ t.starts.map Prod.fst) :
    ∃ t', t.move? .wake = some t' ∧
      t'.starts = t.starts ++ if since + delay ≤ t.now then [(task, t.now)] else [] := by
  obtain ⟨waiting, hwaiting⟩ : ∃ waiting, t.course.delayer.task = some waiting := by
    rw [← Option.ne_none_iff_exists']
    intro noTask
    have numbers : (t.course.started.map Prod.fst).getLast? =
        (t.course.triggered.map Prod.fst).getLast? := by
      rw [List.getLast?_map, List.getLast?_map, timely.orderly.last opened noTask]
    rw [← timely.starts_eq, ← timely.triggers_eq] at numbers
    have found : (t.starts.map Prod.fst).getLast? = some task := by
      rw [numbers, List.getLast?_map]
      exact congrArg (Option.map Prod.fst) last
    exact fresh (List.mem_of_getLast? found)
  obtain ⟨since', last', deadline⟩ := timely.waits waiting hwaiting
  obtain ⟨rfl, rfl⟩ := Prod.mk.inj (Option.some.inj (last.symm.trans last'))
  have taken := timely.orderly.take?_of_waiting waits t.now
  simp only [opened, Delayer.isDue, deadline, Option.any_some, hwaiting, Option.map_some] at taken
  by_cases due : since + delay ≤ t.now
  · simp only [due, decide_true, not_true_eq_false, or_false, Bool.false_eq_true, if_false] at taken
    refine ⟨_, by simp only [move?, waits, taken, Course.move?, Option.map_some]; rfl, ?_⟩
    rw [starts_concat, if_pos due]
    rfl
  · simp only [due, decide_false, Bool.false_eq_true, not_false_eq_true, or_true, if_true] at taken
    refine ⟨t, by simp only [move?, waits, taken], ?_⟩
    rw [if_neg due, List.append_nil]

/-- Of tasks of which each was handed in before the delay of the one before it was over, only the last
one is ever started, and that at most once. -/
theorem IsTimely.starts_of_burst (timely : t.IsTimely delay) {first last : Nat}
    (burst : ∀ task, first ≤ task → task < last → ∃ since next,
      (task, since) ∈ t.triggers ∧ (task + 1, next) ∈ t.triggers ∧ next < since + delay) :
    t.starts.filter (fun s => first ≤ s.1 ∧ s.1 ≤ last) = [] ∨
      ∃ moment, t.starts.filter (fun s => first ≤ s.1 ∧ s.1 ≤ last) = [(last, moment)] := by
  have isLast : ∀ s ∈ t.starts.filter (fun s => first ≤ s.1 ∧ s.1 ≤ last), s.1 = last := by
    intro s mem
    obtain ⟨mem, within⟩ := List.mem_filter.1 mem
    obtain ⟨low, high⟩ := of_decide_eq_true within
    by_contra other
    obtain ⟨since, next, hs, hnext, soon⟩ := burst s.1 low (Nat.lt_of_le_of_ne high other)
    exact timely.not_mem_starts hs hnext (Nat.lt_succ_self _) soon s.2 mem
  have once : ((t.starts.filter fun s => first ≤ s.1 ∧ s.1 ≤ last).map Prod.fst).Nodup :=
    timely.starts_nodup.sublist (List.filter_sublist.map Prod.fst)
  generalize t.starts.filter (fun s => first ≤ s.1 ∧ s.1 ≤ last) = within at isLast once
  match within with
  | [] => exact .inl rfl
  | [s] => exact .inr ⟨s.2, by rw [← isLast s (List.mem_singleton_self s)]⟩
  | s :: s' :: _ =>
    have same : s.1 = s'.1 :=
      (isLast s (List.mem_cons_self ..)).trans (isLast s' (by simp)).symm
    rw [List.map_cons, List.map_cons, same] at once
    exact absurd (List.mem_cons_self ..) (List.nodup_cons.1 once).1

/-- When tasks are started, after every history: whatever is started was handed in last, and the delay
is over since then; a task that is followed by another one before that is never started; of a burst of
tasks only the last one may be started, and once at most.  And a worker that wakes up while the last
task waits starts it exactly if the delay is over. -/
theorem starts_of_follow? (delay : Nat) (ht : (new delay).follow? h = some t) :
    (∀ before task moment after, t.notes = before ++ .started task moment :: after →
      ∃ since, TimeNote.lastTrigger? before = some (task, since) ∧ since + delay ≤ moment) ∧
    (∀ task since later next, (task, since) ∈ t.triggers → (later, next) ∈ t.triggers →
      task < later → next < since + delay → ∀ moment, (task, moment) ∉ t.starts) ∧
    (∀ first last, (∀ task, first ≤ task → task < last → ∃ since next,
        (task, since) ∈ t.triggers ∧ (task + 1, next) ∈ t.triggers ∧ next < since + delay) →
      t.starts.filter (fun s => first ≤ s.1 ∧ s.1 ≤ last) = [] ∨
        ∃ moment, t.starts.filter (fun s => first ≤ s.1 ∧ s.1 ≤ last) = [(last, moment)]) ∧
    (t.course.worker = .waiting → t.course.delayer.isClosed = false → ∀ task since,
      TimeNote.lastTrigger? t.notes = some (task, since) → task ∉ t.starts.map Prod.fst →
      ∃ t', t.move? .wake = some t' ∧
        t'.starts = t.starts ++ if since + delay ≤ t.now then [(task, t.now)] else []) := by
  have timely : t.IsTimely delay := (isTimely_new delay).follow? ht
  refine ⟨timely.due, ?_, fun first last burst => timely.starts_of_burst burst, ?_⟩
  · intro task since later next htask hlater order soon moment
    exact timely.not_mem_starts htask hlater order soon moment
  · intro waits opened task since last fresh
    exact timely.wake waits opened last fresh

/-- Three tasks are handed in one soon after the other, the worker wakes up too early and again in time,
and a fourth task waits until the third one has ended. -/
def quickTyping : List (Move Char) :=
  [ .trigger 'a', .pass 5, .trigger 'b', .pass 5, .trigger 'c', .pass 30, .wake, .pass 20, .wake,
    .pass 10, .trigger 'd', .pass 130, .ended, .finish, .wake ]

theorem starts_of_follow?_quickTyping :
    ∃ t : Timeline Char, (new 50).follow? quickTyping = some t ∧
      t.triggers = [(0, 0), (1, 5), (2, 10), (3, 70)] ∧ t.starts = [(2, 60), (3, 200)] ∧
      (∃ since, TimeNote.lastTrigger? (t.notes.take 3) = some (2, since) ∧ since + 50 ≤ 60) ∧
      (∀ moment, (1, moment) ∉ t.starts) ∧
      ∃ moment, t.starts.filter (fun s => 0 ≤ s.1 ∧ s.1 ≤ 2) = [(2, moment)] := by
  refine ⟨_, rfl, rfl, rfl, ?_, ?_, ?_⟩
  · exact (starts_of_follow? 50 (h := quickTyping) rfl).1 _ _ _
      [.triggered 3 70, .started 3 200] rfl
  · exact (starts_of_follow? 50 (h := quickTyping) rfl).2.1 1 5 2 10 (by decide) (by decide)
      (by decide) (by decide)
  · refine ((starts_of_follow? 50 (h := quickTyping) rfl).2.2.1 0 2 ?_).resolve_left (by decide)
    rintro (_ | _ | task) - below
    · exact ⟨0, 5, by decide, by decide, by decide⟩
    · exact ⟨5, 10, by decide, by decide, by decide⟩
    · omega

end Timeline

end SqlLint
