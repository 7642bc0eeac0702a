import Mathlib.Data.List.Basic
import SqlLint.Proofs.Lint.History
import SqlLint.Proofs.Lint.Runs

/-!
# Lanes over histories

What can happen to one lane in a move is said by `Lane.Step`: a task is handed in, the lane is given
up, its worker takes a task or goes on with its run.  A move lets every lane take such a step or
stand as it is, and adds at most one new lane (`exists_lane_of_move?`, `exists_step_of_move?`).  From
this follows what holds of all lanes after every history (`IsOrderly`): a delayer knows whether its
worker is busy, a lane only ever lints its own document, and of the lanes of one document at most one
was not given up.
-/

namespace SqlLint

namespace Lane

/-- The lane with a task handed in at a moment. -/
def give (lane : Lane) (now : Nat) (job : LintJob) : Lane :=
  { lane with delayer := lane.delayer.trigger now job }

/-- A lane that is made for a task. -/
def new (delay now : Nat) (job : LintJob) : Lane :=
  ⟨job.uri, ({ delay } : Delayer LintJob).trigger now job, none⟩

/-- The lane while its worker begins with a task. -/
def begun (lane : Lane) (job : LintJob) (delayer : Delayer LintJob) : Lane :=
  { lane with delayer, run := some (.taken job) }

/-- The lane with its run gone on, or over. -/
def advanced (lane : Lane) (run : Option LintRun) : Lane :=
  { lane with
    delayer := if run.isNone then lane.delayer.finish else lane.delayer
    run := run }

/-- What may happen to the lane with an index while the linter makes a move. -/
inductive Step (l l' : Linter) (x : Move) (i : Nat) (lane : Lane) : Lane → Prop where
  | same : Step l l' x i lane lane
  | given (job : LintJob) : lane.serves job.uri = true → job.mustBeOpen = true →
      Step l l' x i lane (lane.give l.now job)
  | closed : Step l l' x i lane lane.close
  | taken (job : LintJob) (delayer : Delayer LintJob) : x = .labour (.take i) →
      lane.delayer.take? l.now = some (job, delayer) → Step l l' x i lane (lane.begun job delayer)
  | worked (run : LintRun) (run' : Option LintRun) : x = .labour (.work i) → lane.run = some run →
      l.bench.step? run = some (run', l'.bench) → Step l l' x i lane (lane.advanced run')

variable {l l' : Linter} {x : Move} {i : Nat} {lane lane' : Lane}

theorem isClosed_of_serves {uri : Url} (h : lane.serves uri = true) : lane.isClosed = false := by
  simpa using (Bool.and_eq_true_iff.1 h).1

theorem uri_of_serves {uri : Url} (h : lane.serves uri = true) : lane.uri = uri := by
  simpa using (Bool.and_eq_true_iff.1 h).2

theorem serves_close (uri : Url) (lane : Lane) : lane.close.serves uri = false := by
  simp [serves, close, isClosed, Delayer.close]

theorem isClosed_of_take? {now : Nat} {job : LintJob} {delayer : Delayer LintJob}
    (h : lane.delayer.take? now = some (job, delayer)) :
    lane.isClosed = false ∧ delayer.isClosed = false := by
  obtain ⟨opened, -, -, -, rfl⟩ := Delayer.take?_eq_some h
  exact ⟨opened, opened⟩

theorem isClosed_advanced (lane : Lane) (run : Option LintRun) :
    (lane.advanced run).isClosed = lane.isClosed := by
  cases run <;> rfl

theorem serves_advanced (uri : Url) (lane : Lane) (run : Option LintRun) :
    (lane.advanced run).serves uri = lane.serves uri := by
  cases run <;> rfl

theorem serves_begun {now : Nat} {job : LintJob} {delayer : Delayer LintJob} (uri : Url)
    (h : lane.delayer.take? now = some (job, delayer)) :
    (lane.begun job delayer).serves uri = lane.serves uri := by
  obtain ⟨before, after⟩ := isClosed_of_take? h
  rw [serves, serves, before]
  simp [begun, isClosed, after]

/-- A lane stays that of its document. -/
theorem Step.uri_eq (h : Step l l' x i lane lane') : lane'.uri = lane.uri := by
  cases h <;> rfl

/-- A lane that was given up stays so. -/
theorem Step.isClosed (h : Step l l' x i lane lane') (closed : lane.isClosed = true) :
    lane'.isClosed = true := by
  cases h with
  | same => exact closed
  | given => exact closed
  | closed => rfl
  | taken job delayer _ htake =>
    rw [(isClosed_of_take? htake).1] at closed
    cases closed
  | worked run run' => rwa [isClosed_advanced]

/-- No lane comes to be the one of a URL. -/
theorem Step.serves {uri : Url} (h : Step l l' x i lane lane') (serves : lane'.serves uri = true) :
    lane.serves uri = true := by
  cases h with
  | same => exact serves
  | given => exact serves
  | closed =>
    rw [serves_close] at serves
    cases serves
  | taken job delayer _ htake => rwa [serves_begun uri htake] at serves
  | worked run run' => rwa [serves_advanced] at serves

/-- The lane knows whether its worker is busy, and what it has to lint and lints is its document, of
which it publishes nothing once that is closed. -/
structure IsOrderly (lane : Lane) : Prop where
  busy : lane.delayer.isRunning = lane.run.isSome
  waits : ∀ job, lane.delayer.task = some job → job.uri = lane.uri ∧ job.mustBeOpen = true
  runs : ∀ run, lane.run = some run → run.job.uri = lane.uri ∧ run.job.mustBeOpen = true

theorem isOrderly_new (delay now : Nat) {job : LintJob} (h : job.mustBeOpen = true) :
    (new delay now job).IsOrderly where
  busy := rfl
  waits := by
    rintro job' ⟨⟩
    exact ⟨rfl, h⟩
  runs := by simp [new]

theorem IsOrderly.step (orderly : lane.IsOrderly) (h : Step l l' x i lane lane') :
    lane'.IsOrderly := by
  cases h with
  | same => exact orderly
  | given job serves hopen =>
    refine ⟨orderly.busy, ?_, orderly.runs⟩
    rintro job' ⟨⟩
    exact ⟨(uri_of_serves serves).symm, hopen⟩
  | closed => exact ⟨orderly.busy, by simp [close, Delayer.close], orderly.runs⟩
  | taken job delayer _ htake =>
    obtain ⟨had, has⟩ := Delayer.task_of_take? htake
    refine ⟨(Delayer.isRunning_of_take? htake).2, by simp [begun, has], ?_⟩
    rintro run ⟨⟩
    exact orderly.waits job had
  | worked run run' _ hrun hstep =>
    cases run' with
    | none => exact ⟨rfl, orderly.waits, by simp [advanced]⟩
    | some run' =>
      refine ⟨orderly.busy.trans (by simp [hrun, advanced]), orderly.waits, ?_⟩
      rintro _ ⟨⟩
      rw [(LintRun.step_of_step? hstep).job_eq]
      exact orderly.runs run hrun

end Lane

namespace Linter

variable {l l' m : Linter} {x : Move} {h : List Move} {lane lane' : Lane} {i : Nat}

/-! ## Handing in -/

/-- Handing in a task gives it to the lanes of its document, or to a new lane if there is none. -/
theorem lanes_enqueue (l : Linter) (job : LintJob) :
    l.lanes.any (Lane.serves job.uri) = true ∧ (l.enqueue job).lanes =
        l.lanes.map (fun lane => if lane.serves job.uri then lane.give l.now job else lane) ∨
    l.lanes.any (Lane.serves job.uri) = false ∧
      (l.enqueue job).lanes = l.lanes ++ [Lane.new (delay l.settings) l.now job] := by
  unfold enqueue
  split
  · next found => exact .inl ⟨found, rfl⟩
  · next found => exact .inr ⟨by simpa using found, rfl⟩

/-- Asking for a lint does nothing, or hands in one of the document as it stands. -/
theorem trigger_cases (l : Linter) (uri : Url) (source : LintSource) (force : Bool) :
    l.trigger uri source force = l ∨
    ∃ d, l.documents.get? uri = some d ∧ l.trigger uri source force = l.enqueue ⟨d, source, true⟩ := by
  unfold trigger
  split
  · exact .inl rfl
  · next d found =>
    split
    · exact .inl rfl
    · split
      · exact .inl rfl
      · exact .inr ⟨d, found, rfl⟩

theorem bench_enqueue (l : Linter) (job : LintJob) : (l.enqueue job).bench = l.bench := by
  unfold enqueue
  split <;> rfl

/-- Asking for a lint leaves the bench as it is. -/
theorem bench_trigger (l : Linter) (uri : Url) (source : LintSource) (force : Bool) :
    (l.trigger uri source force).bench = l.bench := by
  obtain h | ⟨d, _, h⟩ := l.trigger_cases uri source force
  · rw [h]
  · rw [h, bench_enqueue]

theorem bench_lintOpen (l : Linter) (force : Bool) : (l.lintOpen force).bench = l.bench := by
  unfold lintOpen
  generalize l.documents = ds
  induction ds generalizing l with
  | nil => rfl
  | cons d ds ih =>
    rw [List.foldl_cons, ih]
    exact l.bench_trigger _ _ _

/-! ## Moves -/

/-- Clearing the diagnostics of a document leaves lanes as they are. -/
theorem lanes_of_clear (l : Linter) (uri : Url) : (l.clear uri).lanes = l.lanes := by
  unfold clear
  split <;> rfl

theorem lanes_of_startProject {root : String} {force : Bool}
    (h : l.startProject root force = some l') : l'.lanes = l.lanes := by
  unfold startProject at h
  split at h
  · simp at h
  · exact (Option.some.inj h) ▸ rfl

theorem lanes_of_look? {i : Nat} (h : l.look? i = some l') : l'.lanes = l.lanes := by
  obtain ⟨p, -, -, rfl⟩ := look?_eq_some h
  rfl

theorem lanes_of_start? {i : Nat} (h : l.start? i = some l') : l'.lanes = l.lanes := by
  obtain ⟨p, path, files, -, -, -, ⟨-, rfl⟩ | ⟨d, -, rfl⟩⟩ := start?_eq_some h <;> rfl

theorem lanes_of_leave? {i j : Nat} (h : l.leave? i j = some l') : l'.lanes = l.lanes := by
  obtain ⟨p, run, -, -, rfl⟩ := leave?_eq_some h
  rfl

theorem lanes_of_workAt? {i j : Nat} (h : l.workAt? i j = some l') : l'.lanes = l.lanes := by
  obtain ⟨p, run, run', bench, -, -, -, ⟨r, -, rfl⟩ | ⟨-, h⟩⟩ := workAt?_eq_some h
  · rfl
  · have := lanes_of_leave? h
    exact this

/-- Every lane takes a step in the move. -/
def LanesStep (l l' : Linter) (x : Move) : Prop :=
  l'.lanes.length = l.lanes.length ∧
    ∀ i lane lane', l.lanes[i]? = some lane → l'.lanes[i]? = some lane' →
      Lane.Step l l' x i lane lane'

theorem lanesStep_of_eq (h : l'.lanes = l.lanes) : LanesStep l l' x := by
  refine ⟨by rw [h], fun i lane lane' hlane hlane' => ?_⟩
  rw [h, hlane] at hlane'
  exact Option.some.inj hlane' ▸ .same

theorem lanesStep_of_map {f : Lane → Lane} (h : l'.lanes = l.lanes.map f)
    (step : ∀ i lane, Lane.Step l l' x i lane (f lane)) : LanesStep l l' x := by
  refine ⟨by rw [h, List.length_map], fun i lane lane' hlane hlane' => ?_⟩
  rw [h, List.getElem?_map, hlane] at hlane'
  exact Option.some.inj hlane' ▸ step i lane

theorem lanesStep_of_set {new : Lane} (h : l'.lanes = l.lanes.set i new)
    (hlane : l.lanes[i]? = some lane) (step : Lane.Step l l' x i lane new) :
    LanesStep l l' x := by
  refine ⟨by rw [h, List.length_set], fun j old lane' hold hlane' => ?_⟩
  rw [h] at hlane'
  by_cases hij : i = j
  · subst hij
    rw [List.getElem?_set_self (List.getElem?_eq_some_iff.1 hlane).1] at hlane'
    obtain rfl : lane = old := Option.some.inj (hlane.symm.trans hold)
    exact Option.some.inj hlane' ▸ step
  · rw [List.getElem?_set_ne hij, hold] at hlane'
    exact Option.some.inj hlane' ▸ .same

/-- A move makes a new lane for a document that has none, or lets every lane take a step. -/
theorem lanes_of_move? (hx : l.move? x = some l') :
    (∃ job, job.mustBeOpen = true ∧ (∀ lane ∈ l.lanes, lane.serves job.uri = false) ∧
      l'.lanes = l.lanes ++ [Lane.new (delay l.settings) l.now job]) ∨
    LanesStep l l' x := by
  cases x with
  | elsewhere w => exact .inr (lanesStep_of_eq ((Option.some.inj hx) ▸ rfl))
  | trigger uri source force =>
    obtain rfl := Option.some.inj hx
    obtain h | ⟨d, -, h⟩ := l.trigger_cases uri source force
    · exact .inr (lanesStep_of_eq (by rw [h]))
    · obtain ⟨-, hl⟩ | ⟨unserved, hl⟩ := l.lanes_enqueue ⟨d, source, true⟩
      · refine .inr (lanesStep_of_map (h ▸ hl) fun i lane => ?_)
        split
        · next serves => exact .given _ serves rfl
        · exact .same
      · refine .inl ⟨⟨d, source, true⟩, rfl, ?_, by rw [h, hl]⟩
        simpa using unserved
  | drop uri =>
    obtain rfl := Option.some.inj hx
    refine .inr (lanesStep_of_map rfl fun i lane => ?_)
    split
    · exact .closed
    · exact .same
  | retire uri => exact .inr (lanesStep_of_eq ((Option.some.inj hx) ▸ rfl))
  | clear uri => exact .inr (lanesStep_of_eq ((Option.some.inj hx) ▸ lanes_of_clear l uri))
  | reset =>
    obtain rfl := Option.some.inj hx
    exact .inr (lanesStep_of_map rfl fun i lane => .closed)
  | startProject root force => exact .inr (lanesStep_of_eq (lanes_of_startProject hx))
  | labour y =>
    cases y with
    | take i =>
      obtain ⟨lane, job, delayer, hlane, htake, rfl⟩ := take?_eq_some hx
      exact .inr (lanesStep_of_set rfl hlane (.taken job delayer rfl htake))
    | work i =>
      obtain ⟨lane, run, run', bench, hlane, hrun, hstep, rfl⟩ := work?_eq_some hx
      exact .inr (lanesStep_of_set rfl hlane (.worked run run' rfl hrun hstep))
    | look i => exact .inr (lanesStep_of_eq (lanes_of_look? hx))
    | start i => exact .inr (lanesStep_of_eq (lanes_of_start? hx))
    | workAt i j => exact .inr (lanesStep_of_eq (lanes_of_workAt? hx))
    | leave i j => exact .inr (lanesStep_of_eq (lanes_of_leave? hx))

/-- A lane is still there after a move, and took a step. -/
theorem exists_lane_of_move? (hx : l.move? x = some l') (hlane : l.lanes[i]? = some lane) :
    ∃ lane', l'.lanes[i]? = some lane' ∧ Lane.Step l l' x i lane lane' := by
  have hi := (List.getElem?_eq_some_iff.1 hlane).1
  obtain ⟨job, -, -, hl⟩ | ⟨hlen, steps⟩ := lanes_of_move? hx
  · refine ⟨lane, ?_, .same⟩
    rw [hl, List.getElem?_append_left hi, hlane]
  · have hlane' := List.getElem?_eq_getElem (hlen ▸ hi)
    exact ⟨_, hlane', steps i lane _ hlane hlane'⟩

/-- A lane after a move took a step, or it is new. -/
theorem exists_step_of_move? (hx : l.move? x = some l') (hlane' : l'.lanes[i]? = some lane') :
    (∃ lane, l.lanes[i]? = some lane ∧ Lane.Step l l' x i lane lane') ∨
    ∃ job, job.mustBeOpen = true ∧ lane' = Lane.new (delay l.settings) l.now job := by
  obtain ⟨job, hopen, -, hl⟩ | ⟨hlen, steps⟩ := lanes_of_move? hx
  · rw [hl, List.getElem?_append] at hlane'
    split at hlane'
    · exact .inl ⟨lane', hlane', .same⟩
    · refine .inr ⟨job, hopen, ?_⟩
      exact (List.mem_singleton.1 (List.mem_of_getElem? hlane'))
  · have hi := (List.getElem?_eq_some_iff.1 hlane').1
    have hlane := List.getElem?_eq_getElem (hlen ▸ hi)
    exact .inl ⟨_, hlane, steps i _ lane' hlane hlane'⟩

/-! ## What holds of all lanes -/

/-- No more lanes have a property after a move than before, if no step brings it about. -/
theorem countP_lanes_le {p q : Lane → Bool} {as bs : List Lane} (hlen : bs.length = as.length)
    (h : ∀ (i : Nat) (a b : Lane), as[i]? = some a → bs[i]? = some b → q b = true → p a = true) :
    bs.countP q ≤ as.countP p := by
  induction as generalizing bs with
  | nil =>
    obtain rfl := List.length_eq_zero_iff.1 hlen
    exact Nat.le_refl 0
  | cons a as ih =>
    obtain ⟨b, bs, rfl⟩ := List.exists_cons_of_length_eq_add_one hlen
    have rest := ih (Nat.succ.inj hlen) fun i a b ha hb => h (i + 1) a b (by simpa) (by simpa)
    rw [List.countP_cons, List.countP_cons]
    by_cases hb : q b = true
    · rw [if_pos hb, if_pos (h 0 a b rfl rfl hb)]
      exact Nat.succ_le_succ rest
    · rw [if_neg hb]
      exact Nat.le_trans rest (Nat.le_add_right _ _)

/-- Of the lanes of one document at most one was not given up. -/
def IsSingle (l : Linter) : Prop := ∀ uri, l.lanes.countP (Lane.serves uri) ≤ 1

theorem isSingle_of_pending_eq_zero (h : l.pending = 0) : l.IsSingle := by
  intro uri
  rw [List.countP_eq_zero.2 fun lane hlane serves => ?_]
  · exact Nat.zero_le 1
  · have := List.filter_eq_nil_iff.1 (List.length_eq_zero_iff.1 h) lane hlane
    simp [Lane.isClosed_of_serves serves] at this

theorem IsSingle.move? (single : l.IsSingle) (hx : l.move? x = some l') : l'.IsSingle := by
  intro uri
  obtain ⟨job, -, unserved, hl⟩ | ⟨hlen, steps⟩ := lanes_of_move? hx
  · rw [hl, List.countP_append, List.countP_singleton]
    split
    · next serves =>
      obtain rfl : job.uri = uri := Lane.uri_of_serves serves
      have unserved : l.lanes.countP (Lane.serves job.uri) = 0 :=
        List.countP_eq_zero.2 (by simpa using unserved)
      omega
    · exact single uri
  · refine Nat.le_trans (countP_lanes_le hlen fun i a b ha hb => ?_) (single uri)
    exact (steps i a b ha hb).serves

/-- Two lanes that are those of one document are the same. -/
theorem IsSingle.index_eq {uri : Url} {j : Nat} (single : l.IsSingle)
    (hi : l.lanes[i]? = some lane) (serves : lane.serves uri = true)
    (hj : l.lanes[j]? = some lane') (serves' : lane'.serves uri = true) : i = j := by
  replace single := single uri
  generalize l.lanes = lanes at hi hj single
  induction lanes generalizing i j with
  | nil => simp at hi
  | cons a lanes ih =>
    rw [List.countP_cons] at single
    have others (ha : a.serves uri = true) {k : Nat} {b : Lane} (hk : lanes[k]? = some b) :
        b.serves uri = false := by
      rw [if_pos ha] at single
      have := List.countP_eq_zero.1 (Nat.le_zero.1 (Nat.le_of_succ_le_succ single)) b
        (List.mem_of_getElem? hk)
      simpa using this
    cases i with
    | zero =>
      obtain rfl : a = lane := by simpa using hi
      cases j with
      | zero => rfl
      | succ j => simp [others serves (k := j) (by simpa using hj)] at serves'
    | succ i =>
      cases j with
      | zero =>
        obtain rfl : a = lane' := by simpa using hj
        simp [others serves' (k := i) (by simpa using hi)] at serves
      | succ j =>
        exact congrArg (· + 1) (ih (by simpa using hi) (by simpa using hj)
          (Nat.le_trans (Nat.le_add_right _ _) single))

/-- All lanes are orderly, and each document has at most one that was not given up. -/
structure IsOrderly (l : Linter) : Prop where
  lanes : ∀ lane ∈ l.lanes, lane.IsOrderly
  single : l.IsSingle

theorem isOrderly_of_lanes_eq_nil (h : l.lanes = []) : l.IsOrderly := by
  constructor <;> simp [IsSingle, h]

theorem IsOrderly.move? (orderly : l.IsOrderly) (hx : l.move? x = some l') : l'.IsOrderly where
  lanes lane' hlane' := by
    obtain ⟨i, hi⟩ := List.mem_iff_getElem?.1 hlane'
    obtain ⟨lane, hlane, step⟩ | ⟨job, hopen, rfl⟩ := exists_step_of_move? hx hi
    · exact (orderly.lanes lane (List.mem_of_getElem? hlane)).step step
    · exact Lane.isOrderly_new _ _ hopen
  single := orderly.single.move? hx

/-- After every history of a linter without lanes, all lanes are orderly. -/
theorem isOrderly_of_follow? (fresh : l.lanes = []) (hm : l.follow? h = some m) : m.IsOrderly :=
  follow?_preserves (fun _ _ _ orderly hx => orderly.move? hx) (isOrderly_of_lanes_eq_nil fresh) hm

end Linter

end SqlLint
