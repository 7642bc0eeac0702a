import SqlLint.Lint.Settle

/-!
# Waiting for the lanes

A `Barrier` waits for the lanes one after the other, until each of them was found idle.  While it
stands no lint is handed in and no lane is given up, so that a lane found idle stays idle; workers
go on.  `Linter.awaitIdle` lets the linter work and tells whether a barrier then falls.
-/

namespace SqlLint

/-- A wait for lanes: the places of those that are still to be found idle. -/
structure Barrier where
  left : List Nat
  deriving DecidableEq, Repr

/-- The lane at a place, if there is one, has no task that waits or runs. -/
def Linter.isIdleAt (l : Linter) (i : Nat) : Bool := l.lanes[i]?.all (·.delayer.isIdle)

/-- The places of the lanes that were not given up. -/
def Linter.openLanes (l : Linter) : List Nat :=
  (List.range l.lanes.length).filter fun i => l.lanes[i]?.any (! ·.isClosed)

namespace Barrier

/-- A barrier before all lanes that were not given up. -/
def all (l : Linter) : Barrier := ⟨l.openLanes⟩

/-- Every lane was found idle. -/
def isOver (b : Barrier) : Bool := b.left.isEmpty

/-- The next lane is found idle; none if it is not, or if none is left. -/
def step? (b : Barrier) (l : Linter) : Option Barrier :=
  match b.left with
  | [] => none
  | i :: left => if l.isIdleAt i then some ⟨left⟩ else none

/-- Lanes are found idle as long as the next one is, while nothing else happens. -/
def goOn (b : Barrier) (l : Linter) : Barrier := ⟨b.left.dropWhile l.isIdleAt⟩

theorem isOver_goOn (b : Barrier) (l : Linter) : (b.goOn l).isOver = b.left.all l.isIdleAt := by
  obtain ⟨left⟩ := b
  induction left with
  | nil => rfl
  | cons i left ih =>
    cases h : l.isIdleAt i with
    | true => simpa [goOn, isOver, h] using ih
    | false => simp [goOn, isOver, h]

theorem isOver_goOn_all (l : Linter) : ((all l).goOn l).isOver = l.isIdle := by
  rw [isOver_goOn, Bool.eq_iff_iff, List.all_eq_true, Linter.isIdle, List.all_eq_true]
  simp only [all, Linter.openLanes, List.mem_filter, List.mem_range]
  constructor
  · intro h lane found
    obtain ⟨i, hi, rfl⟩ := List.getElem_of_mem found
    have idle := h i
    cases closed : l.lanes[i].isClosed <;> simp_all [Linter.isIdleAt]
  · rintro h i ⟨hi, opened⟩
    have idle := h l.lanes[i] (List.getElem_mem hi)
    simp_all [Linter.isIdleAt]

end Barrier

/-- The linter works until it can go on no more; tells whether all lanes are then idle. -/
def Linter.awaitIdle (l : Linter) : Bool × Linter :=
  let l := l.settle
  (((Barrier.all l).goOn l).isOver, l)

end SqlLint
