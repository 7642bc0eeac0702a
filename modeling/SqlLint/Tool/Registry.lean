/-!
# Running children

`Registry` holds the children that run, oldest first, at most `capacity` of them.  Registering one
more drops the oldest ones, which are to be killed; a child that has ended is removed.  Every child
gets a number of its own, counted from one.
-/

namespace SqlLint

/-- The children that run, oldest first, with their numbers. -/
structure Registry (α : Type) where
  capacity : Nat := 10
  nextId : Nat := 1
  tracked : List (Nat × α) := []
  capacity_pos : 0 < capacity := by decide

namespace Registry

variable {α : Type}

/-- A registry for some children, at least one. -/
def ofCapacity (capacity : Nat) : Registry α :=
  { capacity := max capacity 1, capacity_pos := by omega }

/-- The registry before the first child, for ten of them. -/
def empty : Registry α := {}

instance : Inhabited (Registry α) := ⟨empty⟩

/-- How many of the oldest children make room for one more. -/
def excess (r : Registry α) : Nat := r.tracked.length + 1 - r.capacity

/-- The children that make room for one more. -/
def evicted (r : Registry α) : List α := (r.tracked.take r.excess).map (·.2)

/-- The registry with one more child, in place of the evicted ones. -/
def register (r : Registry α) (child : α) : Registry α :=
  { r with nextId := r.nextId + 1, tracked := r.tracked.drop r.excess ++ [(r.nextId, child)] }

/-- The registry without the child of a number. -/
def remove (r : Registry α) (id : Nat) : Registry α :=
  { r with tracked := r.tracked.filter (·.1 ≠ id) }

/-- The children that are tracked, oldest first. -/
def children (r : Registry α) : List α := r.tracked.map (·.2)

/-- The registry without any child. -/
def clear (r : Registry α) : Registry α := { r with tracked := [] }

/-- No child is tracked. -/
def isEmpty (r : Registry α) : Bool := r.tracked.isEmpty

theorem length_register_le (r : Registry α) (child : α) :
    (r.register child).tracked.length ≤ r.capacity := by
  have := r.capacity_pos
  simp [register, excess]
  omega

end Registry

end SqlLint
