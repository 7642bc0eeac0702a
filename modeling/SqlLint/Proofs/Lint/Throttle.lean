import Mathlib.Data.List.Induction
import SqlLint.Proofs.Lint.Lanes

/-!
# How many lints of a document are made at a time

A lane makes one lint after the other, but a lane that was given up in the middle of a lint goes on
with it, and the next task for the document goes to a new lane.  The lints of such lanes are the
overhang.  `executing_le_one_iff` says that it is the only way in which two lints of a document come
to be made at a time: there are never two if, and only if, no worker takes a task for the document
while there is an overhang.
-/

namespace SqlLint

namespace Lane

/-- The worker of the lane makes a lint of a document. -/
def lints (uri : Url) (lane : Lane) : Bool := lane.uri == uri && lane.run.isSome

/-- The worker makes a lint of a document although the lane was given up. -/
def overhangs (uri : Url) (lane : Lane) : Bool := lane.isClosed && lane.lints uri

variable {l l' : Linter} {x : Move} {i : Nat} {lane lane' : Lane} {uri : Url}

theorem lints_begun (uri : Url) (lane : Lane) (job : LintJob) (delayer : Delayer LintJob) :
    (lane.begun job delayer).lints uri = (lane.uri == uri) := by
  simp [lints, begun]

/-- A lane comes to lint a document only by a worker that takes a task. -/
theorem Step.lints (h : Step l l' x i lane lane') (idle : ∀ i, x ≠ .labour (.take i))
    (lints : lane'.lints uri = true) : lane.lints uri = true := by
  cases h with
  | same => exact lints
  | given => exact lints
  | closed => exact lints
  | taken job delayer hx => exact absurd hx (idle i)
  | worked run run' _ hrun =>
    have his : (lane.uri == uri) = true := (Bool.and_eq_true_iff.1 lints).1
    simp [Lane.lints, his, hrun]

end Lane

namespace Linter

variable {l l' m : Linter} {x : Move} {h : List Move} {lane : Lane} {i : Nat} {uri : Url}

/-- How many lints of a document the workers of lanes make. -/
def executing (l : Linter) (uri : Url) : Nat := l.lanes.countP (Lane.lints uri)

/-- How many of them are made by workers of lanes that were given up. -/
def overhang (l : Linter) (uri : Url) : Nat := l.lanes.countP (Lane.overhangs uri)

theorem overhang_le_executing (l : Linter) (uri : Url) : l.overhang uri ≤ l.executing uri :=
  List.countP_mono_left fun _ _ h => (Bool.and_eq_true_iff.1 h).2

/-- A worker that takes a task makes one more lint of the document of its lane. -/
theorem executing_of_take? (orderly : l.IsOrderly) (h : l.take? i = some l') (uri : Url) :
    ∃ lane, l.lanes[i]? = some lane ∧ lane.isClosed = false ∧ lane.run = none ∧
      l'.executing uri = l.executing uri + if lane.uri = uri then 1 else 0 := by
  obtain ⟨lane, job, delayer, hlane, htake, rfl⟩ := take?_eq_some h
  have idle : lane.run = none := by
    have busy := (orderly.lanes lane (List.mem_of_getElem? hlane)).busy
    rw [(Delayer.isRunning_of_take? htake).1] at busy
    simpa using busy.symm
  refine ⟨lane, hlane, (Lane.isClosed_of_take? htake).1, idle, ?_⟩
  obtain ⟨hi, hget⟩ := List.getElem?_eq_some_iff.1 hlane
  show (l.lanes.set i (lane.begun job delayer)).countP (Lane.lints uri) = _
  rw [List.countP_set hi, hget, Lane.lints_begun]
  simp [Lane.lints, idle, executing]

/-- No other move makes one more. -/
theorem executing_le_of_move? (hx : l.move? x = some l') (idle : ∀ i, x ≠ .labour (.take i)) :
    l'.executing uri ≤ l.executing uri := by
  obtain ⟨job, -, -, hl⟩ | ⟨hlen, steps⟩ := lanes_of_move? hx
  · rw [executing, hl, List.countP_append]
    simp [Lane.lints, Lane.new, executing]
  · exact countP_lanes_le hlen fun i a b ha hb => (steps i a b ha hb).lints idle

/-- Without an overhang no lint of a document is made while its lane is ready for a task. -/
theorem executing_eq_zero (orderly : l.IsOrderly) (hlane : l.lanes[i]? = some lane)
    (hopen : lane.isClosed = false) (idle : lane.run = none) (clean : l.overhang lane.uri = 0) :
    l.executing lane.uri = 0 := by
  refine List.countP_eq_zero.2 fun other hmem lints => ?_
  obtain ⟨j, hother⟩ := List.mem_iff_getElem?.1 hmem
  -- The lane that lints was not given up, so that it is the one that is ready.
  have hopen' : other.isClosed = false := by
    have := List.countP_eq_zero.1 clean other hmem
    simpa [Lane.overhangs, lints] using this
  have his : other.uri = lane.uri := by simpa using (Bool.and_eq_true_iff.1 lints).1
  have serves : lane.serves lane.uri = true := by simp [Lane.serves, hopen]
  have serves' : other.serves lane.uri = true := by simp [Lane.serves, hopen', his]
  obtain rfl : i = j := orderly.single.index_eq hlane serves hother serves'
  obtain rfl : lane = other := Option.some.inj (hlane.symm.trans hother)
  simp [Lane.lints, idle] at lints

/-- If there is at most one lint after a worker took a task, there was no overhang before. -/
theorem overhang_eq_zero_of_take? (orderly : l.IsOrderly) (h : l.take? i = some l')
    (hlane : l.lanes[i]? = some lane) (atMost : l'.executing lane.uri ≤ 1) :
    l.overhang lane.uri = 0 := by
  obtain ⟨lane', hlane', -, -, hcount⟩ := executing_of_take? orderly h lane.uri
  obtain rfl : lane = lane' := Option.some.inj (hlane.symm.trans hlane')
  rw [if_pos rfl] at hcount
  have below := l.overhang_le_executing lane.uri
  omega

/-- A move leaves at most one lint of a document, if no task is taken while there is an overhang. -/
theorem executing_le_one_of_move? (orderly : l.IsOrderly) (hx : l.move? x = some l')
    (clean : ∀ i lane, x = .labour (.take i) → l.lanes[i]? = some lane → lane.uri = uri →
      l.overhang uri = 0)
    (before : l.executing uri ≤ 1) : l'.executing uri ≤ 1 := by
  by_cases takes : ∃ i, x = .labour (.take i)
  · obtain ⟨i, rfl⟩ := takes
    obtain ⟨lane, hlane, hopen, idle, hcount⟩ := executing_of_take? orderly hx uri
    rw [hcount]
    split
    · next his =>
      subst his
      have without := clean i lane rfl hlane rfl
      have zero := executing_eq_zero orderly hlane hopen idle without
      omega
    · exact before
  · exact Nat.le_trans (executing_le_of_move? hx fun i hi => takes ⟨i, hi⟩) before

/-- At no moment of a history are two lints of a document made by workers of lanes if, and only if,
whenever a worker takes a task for the document there is no overhang. -/
theorem executing_le_one_iff (fresh : l.lanes = []) (hm : l.follow? h = some m) (uri : Url) :
    (∀ p q, p <+: h → l.follow? p = some q → q.executing uri ≤ 1) ↔
      ∀ p q i lane, p ++ [.labour (.take i)] <+: h → l.follow? p = some q →
        q.lanes[i]? = some lane → lane.uri = uri → q.overhang uri = 0 := by
  constructor
  · rintro throttled p q i lane ⟨rest, rfl⟩ hq hlane rfl
    rw [follow?_append] at hm
    obtain ⟨q', hq', -⟩ := Option.bind_eq_some_iff.1 hm
    obtain ⟨q₀, hq₀, htake⟩ := follow?_concat_eq_some hq'
    obtain rfl : q = q₀ := Option.some.inj (hq.symm.trans hq₀)
    have atMost := throttled _ q' ⟨rest, rfl⟩ hq'
    exact overhang_eq_zero_of_take? (isOrderly_of_follow? fresh hq) htake hlane atMost
  · intro clean p
    induction p using List.reverseRecOn with
    | nil =>
      rintro q - hq
      obtain rfl : l = q := Option.some.inj hq
      simp [executing, fresh]
    | append_singleton p x ih =>
      intro q hpre hq
      obtain ⟨q₀, hq₀, hx⟩ := follow?_concat_eq_some hq
      have before := ih q₀ ((List.prefix_append p [x]).trans hpre) hq₀
      refine executing_le_one_of_move? (isOrderly_of_follow? fresh hq₀) hx ?_ before
      rintro i lane rfl hlane huri
      exact clean p q₀ i lane hpre hq₀ hlane huri

/-- A document is opened and its worker takes the task; the linter is reset, the document is linted
anew, and the new worker takes its task. -/
def resetWhileBusy (d : Document) : List Move :=
  [.trigger d.uri .file false, .labour (.take 0), .reset, .trigger d.uri .file false,
    .labour (.take 1)]

/-- A document is opened and its worker takes the task; the document is closed and opened again, and
the new worker takes its task. -/
def closedWhileBusy (d : Document) : List Move :=
  [.trigger d.uri .file false, .labour (.take 0), .elsewhere (eager {} []).workspace, .drop d.uri,
    .retire d.uri, .clear d.uri, .elsewhere (eager {} [d]).workspace, .trigger d.uri .file false,
    .labour (.take 1)]

theorem executing_le_one_iff_resetWhileBusy :
    (eager {} [.plain]).lanes = [] ∧
    (∃ m, (eager {} [.plain]).follow? (resetWhileBusy .plain) = some m) ∧
    ((∀ p q, p <+: resetWhileBusy .plain → (eager {} [.plain]).follow? p = some q →
        q.executing Document.plain.uri ≤ 1) ↔
      ∀ p q i lane, p ++ [.labour (.take i)] <+: resetWhileBusy .plain →
        (eager {} [.plain]).follow? p = some q → q.lanes[i]? = some lane →
        lane.uri = Document.plain.uri → q.overhang Document.plain.uri = 0) :=
  ⟨rfl, ⟨_, rfl⟩, executing_le_one_iff rfl (m := _) rfl Document.plain.uri⟩

/-- Two lints of one document are made at a time after a reset, and after it was opened again. -/
theorem executing_two :
    (∃ m, (eager {} [.plain]).follow? (resetWhileBusy .plain) = some m ∧
      m.executing Document.plain.uri = 2) ∧
    ∃ m, (eager {} [.plain]).follow? (closedWhileBusy .plain) = some m ∧
      m.executing Document.plain.uri = 2 :=
  ⟨⟨_, rfl, rfl⟩, ⟨_, rfl, rfl⟩⟩

end Linter

end SqlLint
