import Mathlib.Data.List.Nodup
import Mathlib.Data.List.Range
import Mathlib.Tactic.Abel
import Mathlib.Algebra.Order.Group.Multiset
import SqlLint.Server.Service

/-!
# What becomes of registered children

A `Ledger` follows a service through any list of calls of its registry, between which anything may
happen to the machine.  It notes who was registered, and who left the table in which kind of call
(`Service.leavers`).  Whatever the calls, those who leave to make room, or when all children are
killed, are just those whose processes are killed then; the oldest ones leave first, only when the
table is full; and every child has one `Fate` (`fates_after`).
-/

namespace SqlLint

/-- What became of a registered child. -/
inductive Fate where
  | tracked
  | removed
  | evicted
  | killed
  deriving DecidableEq, Repr

/-- What may be asked of the registry of a service; or anything happens to the machine. -/
inductive Service.Call where
  | register (process : Nat)
  | remove (id : Nat)
  | killAll
  | elsewhere (machine : Machine)

/-! ## Processes -/

/-- The processes after some were killed, as far as these still ran. -/
def struck (processes : List Process) (ids : List Nat) : List Process :=
  processes.map fun p => if p.id ∈ ids ∧ p.held then p.killed else p

theorem processes_foldl_kill (m : Machine) (ids : List Nat) :
    (ids.foldl Machine.kill m).processes = struck m.processes ids := by
  induction ids generalizing m with
  | nil => simp [struck]
  | cons id ids ih =>
    rw [List.foldl_cons, ih, Machine.kill, struck, struck, List.map_map]
    apply List.map_congr_left
    intro p _
    by_cases own : p.id = id <;> by_cases held : p.held <;>
      simp [Function.comp_apply, own, held, Process.killed]

/-- To make room for a process, those of the evicted children are killed, and no others. -/
theorem Workspace.processes_track (w : Workspace) (process : Nat) :
    (w.track process).machine.processes = struck w.machine.processes w.registry.evicted :=
  processes_foldl_kill w.machine w.registry.evicted

/-- With all children, the processes of those that are tracked are killed, and no others. -/
theorem Service.processes_killAll (s : Service) :
    s.killAll.workspace.machine.processes =
      struck s.workspace.machine.processes s.workspace.registry.children :=
  processes_foldl_kill s.workspace.machine s.workspace.registry.children

namespace Service

/-- The table of children. -/
def registry (s : Service) : Registry Nat := s.workspace.registry

/-- The children that are tracked, oldest first, with their numbers. -/
def tracked (s : Service) : List (Nat × Nat) := s.registry.tracked

/-- The processes of the machine. -/
def processes (s : Service) : List Process := s.workspace.machine.processes

/-- The service after a call. -/
def call (s : Service) : Call → Service
  | .register process => s.modify (·.track process)
  | .remove id => s.modify fun w => { w with registry := w.registry.remove id }
  | .killAll => s.killAll
  | .elsewhere machine => s.modify fun w => { w with machine }

/-- The children that are tracked before a call, and no longer after it. -/
def leavers (s : Service) (c : Call) : List (Nat × Nat) :=
  s.tracked.filter (· ∉ (s.call c).tracked)

end Service

/-- A service and its children with their numbers: all that were registered, and those that have
left the table when they were removed, when others were registered, and when all were killed. -/
structure Ledger where
  service : Service
  registered : List (Nat × Nat) := []
  removed : List (Nat × Nat) := []
  evicted : List (Nat × Nat) := []
  killed : List (Nat × Nat) := []

namespace Ledger

variable {l : Ledger} {x y : Nat × Nat} {capacity : Nat}

/-- A service whose registry has not been called yet. -/
def new (s : Service) (capacity : Nat) : Ledger :=
  { service := s.modify fun w => { w with registry := .ofCapacity capacity } }

/-- The ledger after a call. -/
def call (l : Ledger) (c : Service.Call) : Ledger :=
  let gone := l.service.leavers c
  let l' := { l with service := l.service.call c }
  match c with
  | .register process => { l' with
      registered := l.registered ++ [(l.service.registry.nextId, process)]
      evicted := l.evicted ++ gone }
  | .remove _ => { l' with removed := l.removed ++ gone }
  | .killAll => { l' with killed := l.killed ++ gone }
  | .elsewhere _ => l'

/-- The ledger after some calls. -/
def after (l : Ledger) (calls : List Service.Call) : Ledger := calls.foldl call l

/-- The children that are tracked. -/
def tracked (l : Ledger) : List (Nat × Nat) := l.service.tracked

/-- The children with a fate. -/
def children (l : Ledger) : Fate → List (Nat × Nat)
  | .tracked => l.tracked
  | .removed => l.removed
  | .evicted => l.evicted
  | .killed => l.killed

/-- The children that have to make room for one more: the oldest one if the table is full, and
otherwise none. -/
def oldest (l : Ledger) (capacity : Nat) : List (Nat × Nat) :=
  if l.tracked.length = max capacity 1 then l.tracked.take 1 else []

/-! ## What holds of every ledger -/

/-- The table is not overfull and in the order of registration, what was evicted was registered
before all that is tracked, and the children with their numbers are dealt out to the four fates. -/
structure IsOrderly (l : Ledger) : Prop where
  length_le : l.tracked.length ≤ l.service.registry.capacity
  nextId_eq : l.service.registry.nextId = l.registered.length + 1
  numbers : l.registered.map Prod.fst = List.range' 1 l.registered.length
  sublist : l.tracked.Sublist l.registered
  before : ∀ x ∈ l.evicted, ∀ y ∈ l.tracked, x.1 < y.1
  dealt : (l.tracked ++ l.removed ++ l.evicted ++ l.killed).Perm l.registered

theorem isOrderly_new (s : Service) (capacity : Nat) : (new s capacity).IsOrderly where
  length_le := Nat.zero_le _
  nextId_eq := rfl
  numbers := rfl
  sublist := .slnil
  before := by simp [new]
  dealt := .nil

/-- In what order the children of the four fates come does not matter. -/
theorem dealt_iff {tracked removed evicted killed registered : List (Nat × Nat)} :
    (tracked ++ removed ++ evicted ++ killed).Perm registered ↔
      (tracked : Multiset (Nat × Nat)) + removed + evicted + killed = registered := by
  simp only [← Multiset.coe_eq_coe, Multiset.coe_add]

theorem IsOrderly.increasing (h : l.IsOrderly) : l.registered.Pairwise (·.1 < ·.1) := by
  rw [← List.pairwise_map (f := Prod.fst) (R := (· < ·)), h.numbers]
  exact List.pairwise_lt_range'

theorem IsOrderly.lt_nextId (h : l.IsOrderly) (hx : x ∈ l.registered) :
    x.1 < l.service.registry.nextId := by
  have known : x.1 ∈ l.registered.map Prod.fst := List.mem_map_of_mem hx
  rw [h.numbers, List.mem_range'_1] at known
  have next := h.nextId_eq
  omega

theorem IsOrderly.evicted_subset (h : l.IsOrderly) (hx : x ∈ l.evicted) : x ∈ l.registered := by
  apply h.dealt.subset
  simp [hx]

theorem IsOrderly.nodup (h : l.IsOrderly) : l.registered.Nodup := by
  apply List.Nodup.of_map Prod.fst
  rw [h.numbers]
  exact List.nodup_range'

/-! ## Who leaves -/

/-- What is missing from the end of a list without repetitions, and one more, is its beginning. -/
theorem filter_not_mem_drop_append {xs : List (Nat × Nat)} (once : (xs ++ [y]).Nodup) (n : Nat) :
    xs.filter (· ∉ xs.drop n ++ [y]) = xs.take n := by
  rw [← List.take_append_drop n xs, List.append_assoc, List.nodup_append] at once
  obtain ⟨-, -, apart⟩ := once
  have stays : (xs.take n).filter (· ∉ xs.drop n ++ [y]) = xs.take n :=
    List.filter_eq_self.2 fun x hx => by simpa using fun h => apart x hx x h rfl
  have goes : (xs.drop n).filter (· ∉ xs.drop n ++ [y]) = [] :=
    List.filter_eq_nil_iff.2 fun x hx => by simp [hx]
  conv_lhs => rw [← List.take_append_drop n xs]
  rw [List.filter_append, List.take_append_drop, stays, goes, List.append_nil]

theorem IsOrderly.leavers_register (h : l.IsOrderly) (process : Nat) :
    l.service.leavers (.register process) = l.tracked.take l.service.registry.excess := by
  refine filter_not_mem_drop_append (y := (l.service.registry.nextId, process)) ?_ _
  refine List.nodup_append.2 ⟨h.nodup.sublist h.sublist, List.nodup_singleton _, ?_⟩
  rintro x hx y hy rfl
  have later := h.lt_nextId (h.sublist.subset hx)
  rw [List.mem_singleton.1 hy] at later
  exact Nat.lt_irrefl _ later

theorem leavers_remove (s : Service) (id : Nat) :
    s.leavers (.remove id) = s.tracked.filter (·.1 = id) := by
  refine List.filter_congr fun x hx => ?_
  have stays : x ∈ (s.call (.remove id)).tracked ↔ x ∈ s.tracked ∧ x.1 ≠ id := by
    simp [Service.call, Service.tracked, Service.registry, Service.modify, Service.modifyLinter,
      Service.workspace, Linter.modify, Linter.withWorkspace, Linter.workspace, Registry.remove]
  simp [stays, hx]

theorem leavers_killAll (s : Service) : s.leavers .killAll = s.tracked := by
  refine List.filter_eq_self.2 fun x _ => ?_
  have empty : (s.call .killAll).tracked = [] := rfl
  simp [empty]

/-- One child more makes room by evicting the oldest one, if the table is full. -/
theorem IsOrderly.take_excess (h : l.IsOrderly)
    (same : l.service.registry.capacity = max capacity 1) :
    l.tracked.take l.service.registry.excess = l.oldest capacity := by
  have bound := h.length_le
  rw [oldest, ← same]
  split
  · next full =>
    have one : l.service.registry.excess = 1 :=
      (congrArg (· + 1 - l.service.registry.capacity) full).trans (Nat.add_sub_cancel_left ..)
    rw [one]
  · next room =>
    have zero : l.service.registry.excess = 0 :=
      Nat.sub_eq_zero_of_le (Nat.lt_of_le_of_ne bound room)
    rw [zero, List.take_zero]

/-! ## Calls -/

theorem IsOrderly.register (h : l.IsOrderly) (process : Nat) :
    (l.call (.register process)).IsOrderly := by
  have increasing := h.increasing.sublist h.sublist
  rw [← List.take_append_drop l.service.registry.excess l.tracked, List.pairwise_append]
    at increasing
  obtain ⟨-, -, crosses⟩ := increasing
  have tracked : (l.call (.register process)).tracked =
      l.tracked.drop l.service.registry.excess ++ [(l.service.registry.nextId, process)] := rfl
  have evicted : (l.call (.register process)).evicted =
      l.evicted ++ l.tracked.take l.service.registry.excess := by
    rw [← h.leavers_register process]
    rfl
  have registered : (l.call (.register process)).registered =
      l.registered ++ [(l.service.registry.nextId, process)] := rfl
  refine ⟨Registry.length_register_le _ _, ?_, ?_, ?_, ?_, ?_⟩
  · rw [registered, List.length_append, List.length_singleton, ← h.nextId_eq]
    rfl
  · simp [registered, h.numbers, h.nextId_eq, List.range'_concat, Nat.add_comm]
  · rw [tracked, registered]
    exact ((List.drop_sublist _ _).trans h.sublist).append (.refl _)
  · intro x hx y hy
    rw [evicted, List.mem_append] at hx
    rw [tracked, List.mem_append, List.mem_singleton] at hy
    rcases hy with hy | rfl
    · rcases hx with hx | hx
      · exact h.before x hx y (List.mem_of_mem_drop hy)
      · exact crosses x hx y hy
    · rcases hx with hx | hx
      · exact h.lt_nextId (h.evicted_subset hx)
      · exact h.lt_nextId (h.sublist.subset (List.mem_of_mem_take hx))
  · have whole := Multiset.coe_eq_coe.2
      (List.Perm.of_eq (List.take_append_drop l.service.registry.excess l.tracked))
    have removed : (l.call (.register process)).removed = l.removed := rfl
    have killed : (l.call (.register process)).killed = l.killed := rfl
    rw [dealt_iff, tracked, removed, evicted, killed, registered, ← Multiset.coe_add,
      ← Multiset.coe_add, ← Multiset.coe_add, ← dealt_iff.1 h.dealt, ← whole, ← Multiset.coe_add]
    abel

theorem IsOrderly.remove (h : l.IsOrderly) (id : Nat) : (l.call (.remove id)).IsOrderly where
  length_le := (List.length_filter_le _ _).trans h.length_le
  nextId_eq := h.nextId_eq
  numbers := h.numbers
  sublist := List.filter_sublist.trans h.sublist
  before x hx y hy := h.before x hx y (List.mem_filter.1 hy).1
  dealt := by
    have removed : (l.call (.remove id)).removed = l.removed ++ l.tracked.filter (·.1 = id) :=
      congrArg (l.removed ++ ·) (leavers_remove l.service id)
    have tracked : (l.call (.remove id)).tracked = l.tracked.filter (·.1 ≠ id) := rfl
    have evicted : (l.call (.remove id)).evicted = l.evicted := rfl
    have killed : (l.call (.remove id)).killed = l.killed := rfl
    have registered : (l.call (.remove id)).registered = l.registered := rfl
    have split := Multiset.coe_eq_coe.2 (List.filter_append_perm (·.1 = id) l.tracked)
    simp only [← decide_not, ← Multiset.coe_add] at split
    rw [dealt_iff, tracked, removed, evicted, killed, registered, ← Multiset.coe_add,
      ← dealt_iff.1 h.dealt, ← split]
    abel

theorem IsOrderly.killAll (h : l.IsOrderly) : (l.call .killAll).IsOrderly where
  length_le := Nat.zero_le _
  nextId_eq := h.nextId_eq
  numbers := h.numbers
  sublist := List.nil_sublist _
  before x hx y hy := by cases hy
  dealt := by
    have killed : (l.call .killAll).killed = l.killed ++ l.tracked :=
      congrArg (l.killed ++ ·) (leavers_killAll l.service)
    have tracked : (l.call .killAll).tracked = [] := rfl
    have removed : (l.call .killAll).removed = l.removed := rfl
    have evicted : (l.call .killAll).evicted = l.evicted := rfl
    have registered : (l.call .killAll).registered = l.registered := rfl
    rw [dealt_iff, tracked, removed, evicted, killed, registered, ← Multiset.coe_add,
      ← dealt_iff.1 h.dealt, Multiset.coe_nil]
    abel

theorem IsOrderly.call (h : l.IsOrderly) (c : Service.Call) : (l.call c).IsOrderly := by
  cases c with
  | register process => exact h.register process
  | remove id => exact h.remove id
  | killAll => exact h.killAll
  | elsewhere machine =>
    exact ⟨h.length_le, h.nextId_eq, h.numbers, h.sublist, h.before, h.dealt⟩

theorem IsOrderly.after (h : l.IsOrderly) (calls : List Service.Call) : (l.after calls).IsOrderly := by
  induction calls generalizing l with
  | nil => exact h
  | cons c calls ih => exact ih (h.call c)

theorem capacity_after (l : Ledger) (calls : List Service.Call) :
    (l.after calls).service.registry.capacity = l.service.registry.capacity := by
  induction calls generalizing l with
  | nil => rfl
  | cons c calls ih =>
    refine (ih (l.call c)).trans ?_
    cases c <;> rfl

theorem call_remove_of_untracked {id : Nat} (h : ∀ x ∈ l.tracked, x.1 ≠ id) :
    l.call (.remove id) = l := by
  have stays : l.service.registry.remove id = l.service.registry := by
    have kept : l.service.registry.tracked.filter (·.1 ≠ id) = l.service.registry.tracked :=
      List.filter_eq_self.2 fun x hx => decide_eq_true (h x hx)
    rw [Registry.remove, kept]
  have nobody : l.service.leavers (.remove id) = [] := by
    rw [leavers_remove]
    exact List.filter_eq_nil_iff.2 fun x hx => by simpa using h x hx
  have same : l.service.call (.remove id) = l.service := by
    have workspace : { l.service.workspace with registry := l.service.registry.remove id } =
        l.service.workspace := by rw [stays]; rfl
    show l.service.modify (fun w => { w with registry := w.registry.remove id }) = l.service
    rw [Service.modify, Service.modifyLinter, Linter.modify]
    exact congrArg (fun w => { l.service with linter := l.service.linter.withWorkspace w }) workspace
  simp only [call, nobody, same, List.append_nil]

/-! ## Fates -/

theorem IsOrderly.fate_unique {fate fate' : Fate} (h : l.IsOrderly) (hx : x ∈ l.children fate)
    (hx' : x ∈ l.children fate') : fate = fate' := by
  have once := h.dealt.nodup_iff.2 h.nodup
  simp only [List.nodup_append, List.mem_append] at once
  obtain ⟨⟨⟨-, -, removed⟩, -, evicted⟩, -, killed⟩ := once
  cases fate <;> cases fate' <;> simp only [children] at hx hx'
  all_goals grind

theorem IsOrderly.mem_registered_iff (h : l.IsOrderly) :
    x ∈ l.registered ↔ ∃! fate, x ∈ l.children fate := by
  rw [← h.dealt.mem_iff]
  simp only [List.mem_append]
  constructor
  · intro hx
    have found : ∃ fate, x ∈ l.children fate := by
      rcases hx with ((hx | hx) | hx) | hx
      · exact ⟨.tracked, hx⟩
      · exact ⟨.removed, hx⟩
      · exact ⟨.evicted, hx⟩
      · exact ⟨.killed, hx⟩
    obtain ⟨fate, hx⟩ := found
    exact ⟨fate, hx, fun fate' hx' => h.fate_unique hx' hx⟩
  · rintro ⟨fate, hx, -⟩
    cases fate <;> simp only [children] at hx <;> simp [hx]

/-- What is said of the children of a service: the table is not overfull, and in the order of
registration; a child more makes the oldest one leave if the table is full, and otherwise none, and
kills the process of who leaves; with all children, those of all that are tracked are killed; to
remove a child kills nobody, and changes nothing if it is not tracked; what was evicted was
registered before all that is tracked; and the children that were registered are those that have a
fate, each just one. -/
structure HasFates (capacity : Nat) (l : Ledger) : Prop where
  bounded : l.tracked.length ≤ max capacity 1
  numbered : l.registered.map Prod.fst = List.range' 1 l.registered.length
  ordered : l.tracked.Sublist l.registered
  evicts : ∀ process, l.service.leavers (.register process) = l.oldest capacity ∧
    l.service.registry.evicted = (l.oldest capacity).map Prod.snd ∧
    (l.service.call (.register process)).processes =
      struck l.service.processes ((l.oldest capacity).map Prod.snd)
  kills : l.service.leavers .killAll = l.tracked ∧
    l.service.registry.children = l.tracked.map Prod.snd ∧
    (l.service.call .killAll).processes =
      struck l.service.processes (l.tracked.map Prod.snd)
  spares : ∀ id, l.service.leavers (.remove id) = l.tracked.filter (·.1 = id) ∧
    (l.service.call (.remove id)).processes = l.service.processes
  unknown : ∀ id, (∀ x ∈ l.tracked, x.1 ≠ id) → l.call (.remove id) = l
  before : ∀ x ∈ l.evicted, ∀ y ∈ l.tracked, x.1 < y.1
  fates : ∀ x, x ∈ l.registered ↔ ∃! fate, x ∈ l.children fate

/-- Whatever the calls, the children have fates. -/
theorem fates_after (s : Service) (capacity : Nat) (calls : List Service.Call) :
    ((new s capacity).after calls).HasFates capacity := by
  generalize hl : (new s capacity).after calls = l
  have orderly : l.IsOrderly := hl ▸ (isOrderly_new s capacity).after calls
  have same : l.service.registry.capacity = max capacity 1 :=
    hl ▸ capacity_after (new s capacity) calls
  have evicted : l.service.registry.evicted = (l.oldest capacity).map Prod.snd :=
    congrArg (List.map Prod.snd) (orderly.take_excess same)
  exact {
    bounded := same ▸ orderly.length_le
    numbered := orderly.numbers
    ordered := orderly.sublist
    evicts := fun process =>
      ⟨(orderly.leavers_register process).trans (orderly.take_excess same), evicted,
        evicted ▸ l.service.workspace.processes_track process⟩
    kills := ⟨leavers_killAll l.service, rfl, l.service.processes_killAll⟩
    spares := fun id => ⟨leavers_remove l.service id, rfl⟩
    unknown := fun id => call_remove_of_untracked
    before := orderly.before
    fates := fun x => orderly.mem_registered_iff }

end Ledger

end SqlLint
