import Mathlib.Data.List.Induction
import SqlLint.Lint.Barrier
import SqlLint.Proofs.Lint.Lanes

/-!
# Waiting under the lock of the lanes

The lanes that were not given up are a map with a lock.  A thread holds the lock while it hands in a
task, while it gives up lanes, and all the time that it waits for them; workers never take it.  A
`Gate` is the linter with that lock, and `Gate.follow?` is the gate after its threads came in some
order.  Under a wait the lanes are left to their workers, who make no idle lane busy
(`Linter.Rests`), so that the lanes found idle stay idle while others are waited for
(`Barrier.Stands`): when the wait ends well they are all idle at once (`Gate.isIdle_of_fall`).  A
wait that arrives when they are can end well at once (`Gate.follow?_wait`).
-/

namespace SqlLint

/-- The move hands in a task or gives up lanes. -/
def Move.touchesLanes : Move → Bool
  | .trigger .. | .drop _ | .reset => true
  | _ => false

/-! ## Lanes that are left to their workers -/

namespace Linter

variable {l l' : Linter} {x : Move} {i : Nat} {lane new : Lane}

/-- No lane came or was given up, and no idle lane has become busy. -/
structure Rests (l l' : Linter) : Prop where
  openLanes_eq : l'.openLanes = l.openLanes
  isIdleAt : ∀ i, l.isIdleAt i = true → l'.isIdleAt i = true

theorem rests_of_eq (h : l'.lanes = l.lanes) : Rests l l' := by
  constructor
  · rw [openLanes, openLanes, h]
  · intro i idle
    rwa [Linter.isIdleAt, h]

theorem rests_of_set (h : l'.lanes = l.lanes.set i new) (hlane : l.lanes[i]? = some lane)
    (hclosed : new.isClosed = lane.isClosed)
    (hidle : lane.delayer.isIdle = true → new.delayer.isIdle = true) : Rests l l' := by
  have hi := (List.getElem?_eq_some_iff.1 hlane).1
  have here : l'.lanes[i]? = some new := by rw [h, List.getElem?_set_self hi]
  have others {j : Nat} (hij : i ≠ j) : l'.lanes[j]? = l.lanes[j]? := by
    rw [h, List.getElem?_set_ne hij]
  constructor
  · rw [openLanes, openLanes, h, List.length_set, ← h]
    refine List.filter_congr fun j _ => ?_
    obtain rfl | hij := eq_or_ne i j
    · rw [here, hlane, Option.any_some, Option.any_some, hclosed]
    · rw [others hij]
  · intro j idle
    obtain rfl | hij := eq_or_ne i j
    · rw [Linter.isIdleAt, hlane] at idle
      rw [Linter.isIdleAt, here]
      exact hidle idle
    · rwa [Linter.isIdleAt, others hij]

/-- A move that does not touch the lanes leaves them to their workers. -/
theorem rests_of_move? (hx : l.move? x = some l') (untouched : x.touchesLanes = false) :
    Rests l l' := by
  cases x with
  | elsewhere w => exact rests_of_eq ((Option.some.inj hx) ▸ rfl)
  | trigger uri source force => cases untouched
  | drop uri => cases untouched
  | retire uri => exact rests_of_eq ((Option.some.inj hx) ▸ rfl)
  | clear uri => exact rests_of_eq ((Option.some.inj hx) ▸ lanes_of_clear l uri)
  | reset => cases untouched
  | startProject root force => exact rests_of_eq (lanes_of_startProject hx)
  | labour y =>
    cases y with
    | take i =>
      obtain ⟨lane, job, delayer, hlane, htake, rfl⟩ := take?_eq_some hx
      obtain ⟨opened, closed⟩ := Lane.isClosed_of_take? htake
      refine rests_of_set rfl hlane (closed.trans opened.symm) fun idle => ?_
      -- A lane that is idle has nothing for its worker to take.
      rw [Delayer.isIdle, (Delayer.task_of_take? htake).1] at idle
      cases idle
    | work i =>
      obtain ⟨lane, run, run', bench, hlane, hrun, hstep, rfl⟩ := work?_eq_some hx
      refine rests_of_set rfl hlane (Lane.isClosed_advanced lane run') fun idle => ?_
      cases run' with
      | none => simpa [Delayer.isIdle, Delayer.finish] using (Bool.and_eq_true_iff.1 idle).1
      | some run' => exact idle
    | look i => exact rests_of_eq (lanes_of_look? hx)
    | start i => exact rests_of_eq (lanes_of_start? hx)
    | workAt i j => exact rests_of_eq (lanes_of_workAt? hx)
    | leave i j => exact rests_of_eq (lanes_of_leave? hx)

theorem isIdle_iff (l : Linter) : l.isIdle = true ↔ ∀ i ∈ l.openLanes, l.isIdleAt i = true := by
  rw [← Barrier.isOver_goOn_all, Barrier.isOver_goOn, List.all_eq_true]
  rfl

/-- In a linter whose open lanes are idle nothing is left to do or being done for them. -/
theorem IsOrderly.done_of_isIdle (orderly : l.IsOrderly) (idle : l.isIdle = true)
    (hlane : lane ∈ l.lanes) (opened : lane.isClosed = false) :
    lane.delayer.task = none ∧ lane.delayer.isRunning = false ∧ lane.run = none := by
  have idle := List.all_eq_true.1 idle lane hlane
  rw [opened, Bool.false_or, Delayer.isIdle, Bool.and_eq_true_iff] at idle
  have still : lane.delayer.isRunning = false := by simpa using idle.2
  refine ⟨by simpa using idle.1, still, ?_⟩
  have busy := (orderly.lanes lane hlane).busy
  rw [still] at busy
  simpa using busy.symm

end Linter

/-! ## Threads and the lock -/

/-- Who holds the lock of the lanes: a thread that may change them, or one that waits for them until
a deadline. -/
inductive Holder where
  | caller
  | waiter (b : Barrier) (deadline : Nat)
  deriving DecidableEq, Repr

/-- The linter and who holds the lock of its lanes. -/
structure Gate where
  linter : Linter
  holder : Option Holder := none

/-- What a thread does next.  A caller enters, makes moves that touch the lanes and leaves; several
moves are what a reset does when it gives up one lane after the other.  A waiter arrives, with the
lanes in any order, finds them idle one by one, and goes away when its time has expired (false) or
when it has found them all idle (true).  Other moves need no lock: those of workers, and whatever
happens elsewhere, which also stands for what a caller read before it entered. -/
inductive Act where
  | enter
  | call (x : Move)
  | leave
  | arrive (order : List Nat) (deadline : Nat)
  | find
  | expire
  | fall
  | other (x : Move)

namespace Gate

variable {bench : Bench} {g g' : Gate} {h : List Act}

/-- A linter without lanes, whose lock is free. -/
def new (bench : Bench) : Gate := { linter := { bench } }

/-- The gate after an act; none if the act has to wait or cannot be. -/
def act? (g : Gate) : Act → Option Gate
  | .enter => if g.holder.isNone then some { g with holder := some .caller } else none
  | .call x =>
    if g.holder = some .caller ∧ x.touchesLanes then
      (g.linter.move? x).map fun linter => { g with linter }
    else none
  | .leave => if g.holder = some .caller then some { g with holder := none } else none
  | .arrive order deadline =>
    if g.holder.isNone ∧ order.Perm g.linter.openLanes then
      some { g with holder := some (.waiter ⟨order⟩ deadline) }
    else none
  | .find =>
    match g.holder with
    | some (.waiter b deadline) =>
      (b.step? g.linter).map fun b => { g with holder := some (.waiter b deadline) }
    | _ => none
  | .expire =>
    match g.holder with
    | some (.waiter ⟨i :: _⟩ deadline) =>
      if ! g.linter.isIdleAt i ∧ deadline ≤ g.linter.now then some { g with holder := none }
      else none
    | _ => none
  | .fall =>
    match g.holder with
    | some (.waiter b _) => if b.isOver then some { g with holder := none } else none
    | _ => none
  | .other x =>
    if x.touchesLanes then none else (g.linter.move? x).map fun linter => { g with linter }

/-- The gate after acts; none if one of them cannot be where it comes. -/
def follow? (g : Gate) (h : List Act) : Option Gate := h.foldlM act? g

/-- What an act needs and does. -/
inductive Step (g : Gate) : Act → Gate → Prop where
  | entered : g.holder = none → Step g .enter { g with holder := some .caller }
  | called (x : Move) (linter : Linter) : g.holder = some .caller → x.touchesLanes = true →
      g.linter.move? x = some linter → Step g (.call x) { g with linter }
  | left : g.holder = some .caller → Step g .leave { g with holder := none }
  | arrived (order : List Nat) (deadline : Nat) : g.holder = none →
      order.Perm g.linter.openLanes →
      Step g (.arrive order deadline) { g with holder := some (.waiter ⟨order⟩ deadline) }
  | found (b b' : Barrier) (deadline : Nat) : g.holder = some (.waiter b deadline) →
      b.step? g.linter = some b' → Step g .find { g with holder := some (.waiter b' deadline) }
  | expired (i : Nat) (left : List Nat) (deadline : Nat) :
      g.holder = some (.waiter ⟨i :: left⟩ deadline) → g.linter.isIdleAt i = false →
      deadline ≤ g.linter.now → Step g .expire { g with holder := none }
  | fell (b : Barrier) (deadline : Nat) : g.holder = some (.waiter b deadline) →
      b.isOver = true → Step g .fall { g with holder := none }
  | other (x : Move) (linter : Linter) : x.touchesLanes = false →
      g.linter.move? x = some linter → Step g (.other x) { g with linter }

theorem step_of_act? {x : Act} (hx : g.act? x = some g') : Step g x g' := by
  cases x with
  | enter =>
    obtain ⟨free, ⟨⟩⟩ := Option.ite_none_right_eq_some.1 hx
    exact .entered (by simpa using free)
  | call x =>
    obtain ⟨⟨holds, touches⟩, hcall⟩ := Option.ite_none_right_eq_some.1 hx
    obtain ⟨linter, hmove, rfl⟩ := Option.map_eq_some_iff.1 hcall
    exact .called x linter holds touches hmove
  | leave =>
    obtain ⟨holds, ⟨⟩⟩ := Option.ite_none_right_eq_some.1 hx
    exact .left holds
  | arrive order deadline =>
    obtain ⟨⟨free, perm⟩, ⟨⟩⟩ := Option.ite_none_right_eq_some.1 hx
    exact .arrived order deadline (by simpa using free) perm
  | find =>
    simp only [act?] at hx
    split at hx
    · next b deadline holds =>
      obtain ⟨b', hb, rfl⟩ := Option.map_eq_some_iff.1 hx
      exact .found b b' deadline holds hb
    · cases hx
  | expire =>
    simp only [act?] at hx
    split at hx
    · next i left deadline holds =>
      obtain ⟨⟨busy, late⟩, ⟨⟩⟩ := Option.ite_none_right_eq_some.1 hx
      exact .expired i left deadline holds (by simpa using busy) late
    · cases hx
  | fall =>
    simp only [act?] at hx
    split at hx
    · next b deadline holds =>
      obtain ⟨passed, ⟨⟩⟩ := Option.ite_none_right_eq_some.1 hx
      exact .fell b deadline holds passed
    · cases hx
  | other x =>
    obtain ⟨untouched, hother⟩ := Option.ite_none_left_eq_some.1 hx
    obtain ⟨linter, hmove, rfl⟩ := Option.map_eq_some_iff.1 hother
    exact .other x linter (by simpa using untouched) hmove

/-- What is kept by every move of the linter is kept by every act. -/
theorem Step.linter_preserves {P : Linter → Prop} {x : Act}
    (move : ∀ l x l', P l → l.move? x = some l' → P l') (hx : Step g x g') (hg : P g.linter) :
    P g'.linter := by
  cases hx with
  | called x linter _ _ hx => exact move _ x linter hg hx
  | other x linter _ hx => exact move _ x linter hg hx
  | entered | left | arrived | found | expired | fell => exact hg

theorem isOrderly_of_follow? (hg : (new bench).follow? h = some g) : g.linter.IsOrderly :=
  foldlM_preserves (P := fun g => g.linter.IsOrderly)
    (fun _ _ _ orderly hx =>
      (step_of_act? hx).linter_preserves (fun _ _ _ orderly hx => orderly.move? hx) orderly)
    (Linter.isOrderly_of_lanes_eq_nil rfl) hg

end Gate

/-! ## While a wait stands -/

/-- A barrier that came up before the lanes of `a` stands before those of `l`: since then lanes were
only found idle and left to their workers, and all that were found idle are so now. -/
structure Barrier.Stands (a l : Linter) (during : List Act) (b : Barrier) : Prop where
  quiet : ∀ x ∈ during, x = .find ∨ ∃ y, x = .other y
  openLanes_eq : l.openLanes = a.openLanes
  found : ∀ i ∈ l.openLanes, i ∈ b.left ∨ l.isIdleAt i = true

namespace Barrier

variable {a l l' : Linter} {during : List Act} {b b' : Barrier}

theorem stands_of_perm {order : List Nat} (perm : order.Perm l.openLanes) :
    Stands l l [] ⟨order⟩ where
  quiet := by simp
  openLanes_eq := rfl
  found _ opened := .inl (perm.mem_iff.2 opened)

theorem Stands.find (stands : b.Stands a l during) (hb : b.step? l = some b') :
    b'.Stands a l (during ++ [.find]) where
  quiet := by simpa [or_imp, forall_and] using stands.quiet
  openLanes_eq := stands.openLanes_eq
  found i opened := by
    obtain left | idle := stands.found i opened
    · obtain ⟨_ | ⟨j, rest⟩⟩ := b
      · cases left
      · obtain ⟨idle, ⟨⟩⟩ := Option.ite_none_right_eq_some.1 hb
        obtain rfl | left := List.mem_cons.1 left
        · exact .inr idle
        · exact .inl left
    · exact .inr idle

theorem Stands.rests (stands : b.Stands a l during) (rests : l.Rests l') (x : Move) :
    b.Stands a l' (during ++ [.other x]) where
  quiet := by simpa [or_imp, forall_and] using stands.quiet
  openLanes_eq := rests.openLanes_eq.trans stands.openLanes_eq
  found i opened := by
    rw [rests.openLanes_eq] at opened
    exact (stands.found i opened).imp_right (rests.isIdleAt i)

/-- When a barrier that stands is over, all lanes are idle. -/
theorem Stands.isIdle (stands : b.Stands a l during) (passed : b.isOver = true) :
    l.isIdle = true := by
  refine l.isIdle_iff.2 fun i opened => ?_
  refine (stands.found i opened).resolve_left fun left => ?_
  rw [List.isEmpty_iff.1 passed] at left
  cases left

end Barrier

namespace Gate

variable {bench : Bench} {g s : Gate} {h : List Act} {b : Barrier} {deadline : Nat}

/-- Who waits has arrived at some moment of the history, and the barrier has stood since. -/
theorem exists_stands (hg : (new bench).follow? h = some g)
    (holds : g.holder = some (.waiter b deadline)) :
    ∃ before order during a, h = before ++ .arrive order deadline :: during ∧
      (new bench).follow? before = some a ∧ b.Stands a.linter g.linter during := by
  induction h using List.reverseRecOn generalizing g b with
  | nil =>
    obtain rfl := Option.some.inj hg
    cases holds
  | append_singleton h x ih =>
    obtain ⟨g₀, hg₀, hx⟩ := foldlM_concat_eq_some hg
    cases step_of_act? hx with
    | entered => cases holds
    | called _ _ caller => cases caller.symm.trans holds
    | left => cases holds
    | arrived order _ _ perm =>
      obtain ⟨rfl, rfl⟩ := Holder.waiter.inj (Option.some.inj holds)
      exact ⟨h, order, [], g₀, rfl, hg₀, Barrier.stands_of_perm perm⟩
    | found b₀ _ _ holds₀ hb =>
      obtain ⟨rfl, rfl⟩ := Holder.waiter.inj (Option.some.inj holds)
      obtain ⟨before, order, during, a, rfl, ha, stands⟩ := ih hg₀ holds₀
      exact ⟨before, order, during ++ [.find], a, by simp, ha, stands.find hb⟩
    | expired => cases holds
    | fell => cases holds
    | other y l untouched hy =>
      obtain ⟨before, order, during, a, rfl, ha, stands⟩ := ih hg₀ holds
      exact ⟨before, order, during ++ [.other y], a, by simp, ha,
        stands.rests (Linter.rests_of_move? hy untouched) y⟩

/-- A waiter finds lanes that are idle one after the other, until none is left. -/
theorem follow?_find (holds : g.holder = some (.waiter b deadline))
    (idle : ∀ i ∈ b.left, g.linter.isIdleAt i = true) :
    g.follow? (List.replicate b.left.length .find) =
      some { g with holder := some (.waiter ⟨[]⟩ deadline) } := by
  obtain ⟨left⟩ := b
  induction left generalizing g with
  | nil => rw [← holds]; rfl
  | cons i left ih =>
    have first : g.act? .find = some { g with holder := some (.waiter ⟨left⟩ deadline) } := by
      simp only [act?, holds, Barrier.step?, idle i List.mem_cons_self, if_true, Option.map_some]
    rw [List.length_cons, List.replicate_succ, follow?, List.foldlM_cons, first]
    exact ih rfl fun j hj => idle j (List.mem_cons_of_mem _ hj)

/-- A wait that arrives when all lanes are idle can end well at once. -/
theorem follow?_wait {order : List Nat} (free : g.holder = none)
    (perm : order.Perm g.linter.openLanes) (idle : g.linter.isIdle = true) (deadline : Nat) :
    g.follow? (.arrive order deadline :: (List.replicate order.length .find ++ [.fall])) =
      some g := by
  have arrived : g.act? (.arrive order deadline) =
      some { g with holder := some (.waiter ⟨order⟩ deadline) } :=
    if_pos ⟨by rw [free]; rfl, perm⟩
  have finds := follow?_find (g := { g with holder := some (.waiter ⟨order⟩ deadline) }) rfl
    fun i left => g.linter.isIdle_iff.1 idle i (perm.mem_iff.1 left)
  rw [follow?] at finds
  rw [follow?, List.foldlM_cons, arrived, Option.bind_eq_bind, Option.bind_some,
    List.foldlM_append, finds]
  show some { g with holder := none } = some g
  rw [← free]

/-- A wait for the lanes that ends well, however its threads and the others came, ends at a moment
when all lanes of the map are idle at once.  They are the lanes that it found when it arrived, since
when nobody has handed in a task or given up a lane, and no task is left of them or being made. -/
theorem isIdle_of_fall (hs : (new bench).follow? h = some s) (hg : s.act? .fall = some g) :
    ∃ before order deadline during a, h = before ++ .arrive order deadline :: during ∧
      (new bench).follow? before = some a ∧ (∀ x ∈ during, x = .find ∨ ∃ y, x = .other y) ∧
      s.linter.openLanes = a.linter.openLanes ∧ g.linter = s.linter ∧ s.linter.isIdle = true ∧
      ∀ lane ∈ s.linter.lanes, lane.isClosed = false →
        lane.delayer.task = none ∧ lane.delayer.isRunning = false ∧ lane.run = none := by
  cases step_of_act? hg with
  | fell b deadline holds passed =>
    obtain ⟨before, order, during, a, hh, ha, stands⟩ := exists_stands hs holds
    have idle := stands.isIdle passed
    exact ⟨before, order, deadline, during, a, hh, ha, stands.quiet, stands.openLanes_eq, rfl, idle,
      fun lane hlane opened => (isOrderly_of_follow? hs).done_of_isIdle idle hlane opened⟩

/-- Two documents are handed in, a wait arrives while they are not linted yet, and finds one after
the other idle when its worker is through with it. -/
def twoDocuments : List Act :=
  let uri : Url := ⟨"file", some {}, "/b.sql", none, none⟩
  let labours (i : Nat) : List Act :=
    .other (.labour (.take i)) :: List.replicate 7 (.other (.labour (.work i))) ++ [.find]
  [.other (.elsewhere (Linter.eager (Linter.writing Linter.ownReport)
      [.plain, { Document.plain with uri }]).workspace),
    .enter, .call (.trigger Document.plain.uri .file false), .call (.trigger uri .file false),
    .leave, .arrive [1, 0] 0] ++ labours 1 ++ labours 0

/-- The wait for two documents is over when both are linted, though the tasks were not begun when it
arrived and the first to be found idle was so before the other. -/
theorem isIdle_of_fall_twoDocuments :
    ∃ s g, (new {}).follow? twoDocuments = some s ∧ s.act? .fall = some g ∧
      ∃ before order deadline during a, twoDocuments = before ++ .arrive order deadline :: during ∧
        (new {}).follow? before = some a ∧ (∀ x ∈ during, x = .find ∨ ∃ y, x = .other y) ∧
        s.linter.openLanes = a.linter.openLanes ∧ g.linter = s.linter ∧ s.linter.isIdle = true ∧
        ∀ lane ∈ s.linter.lanes, lane.isClosed = false →
          lane.delayer.task = none ∧ lane.delayer.isRunning = false ∧ lane.run = none := by
  have possible : ((new {}).follow? (twoDocuments ++ [.fall])).isSome = true := by decide +kernel
  obtain ⟨g, hg⟩ := Option.isSome_iff_exists.1 possible
  obtain ⟨s, hs, hfall⟩ := foldlM_concat_eq_some hg
  exact ⟨s, g, hs, hfall, isIdle_of_fall hs hfall⟩

end Gate

end SqlLint
