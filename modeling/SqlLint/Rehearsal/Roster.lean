import SqlLint.Tool.Registry

/-!
# A rehearsed registry

`Rehearsal.Roster` is a registry of children that have names, with all that were ever registered, so
that one can tell of each whether it is tracked, was removed, or has come to its end.
-/

namespace SqlLint.Rehearsal

/-- A child: its name, and its exit code if it ended by itself. -/
structure Child where
  name : String
  code : Option Int := none
  deriving DecidableEq, Repr

/-- A registry, the children ever registered with their numbers, and the numbers removed. -/
structure Roster where
  registry : Registry Child
  all : List (Nat × Child) := []
  removed : List Nat := []

namespace Roster

/-- A child is registered. -/
def spawn (r : Roster) (child : Child) : Roster :=
  { r with registry := r.registry.register child, all := r.all ++ [(r.registry.nextId, child)] }

/-- The last child of a name is removed. -/
def remove (r : Roster) (name : String) : Roster :=
  match r.all.reverse.find? (·.2.name = name) with
  | some (id, _) => { r with registry := r.registry.remove id, removed := id :: r.removed }
  | none => r

/-- All children are killed. -/
def killAll (r : Roster) : Roster := { r with registry := r.registry.clear }

/-- The child of a number is tracked. -/
def isTracked (r : Roster) (id : Nat) : Bool := r.registry.tracked.any (·.1 = id)

/-- The children that have come to their end. -/
def ended (r : Roster) : List Child :=
  (r.all.filter fun (id, _) => ! r.isTracked id && ! r.removed.contains id).map (·.2)

end Roster

end SqlLint.Rehearsal
