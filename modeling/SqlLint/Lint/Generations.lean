import SqlLint.Url.Basic

/-!
# Generations

Every lint of a document is given a number, counted from one for each URL.  Results are applied
only if their number is greater than every number applied before; retiring a URL does away with
all numbers issued so far.
-/

namespace SqlLint

/-- The last number issued and the last number applied. -/
structure Generation where
  issued : Nat := 0
  applied : Nat := 0
  deriving DecidableEq, Repr, Inhabited

/-- The numbers of each URL. -/
abbrev Generations := List (Url × Generation)

namespace Generations

/-- The numbers of a URL. -/
def of (g : Generations) (uri : Url) : Generation := (g.lookup uri).getD {}

/-- The numbers with those of a URL replaced. -/
def set (g : Generations) (uri : Url) (new : Generation) : Generations :=
  (uri, new) :: g.filter (·.1 ≠ uri)

/-- The next number of a URL is issued. -/
def issue (g : Generations) (uri : Url) : Nat × Generations :=
  let n := (g.of uri).issued + 1
  (n, g.set uri { g.of uri with issued := n })

/-- The number may be applied: it is greater than the last one applied. -/
def accepts (g : Generations) (uri : Url) (n : Nat) : Bool := (g.of uri).applied < n

/-- A number is applied, if it may be. -/
def tryApply (g : Generations) (uri : Url) (n : Nat) : Bool × Generations :=
  if g.accepts uri n then (true, g.set uri { g.of uri with applied := n }) else (false, g)

/-- All numbers of a URL issued so far count as applied. -/
def retire (g : Generations) (uri : Url) : Generations :=
  g.set uri { g.of uri with applied := (g.of uri).issued }

theorem of_set_self (g : Generations) (uri : Url) (new : Generation) :
    (g.set uri new).of uri = new := by
  simp [of, set]

theorem lookup_filter_of_ne (g : Generations) {uri other : Url} (h : other ≠ uri) :
    (g.filter fun e => e.1 ≠ uri).lookup other = g.lookup other := by
  induction g with
  | nil => rfl
  | cons e g ih =>
    obtain ⟨u, n⟩ := e
    by_cases hu : u = uri
    · subst hu
      rw [List.filter_cons_of_neg (by simp), ih, List.lookup_cons, beq_false_of_ne h]
    · rw [List.filter_cons_of_pos (by simpa using hu), List.lookup_cons, List.lookup_cons, ih]

theorem of_set_of_ne (g : Generations) {uri other : Url} (new : Generation) (h : other ≠ uri) :
    (g.set uri new).of other = g.of other := by
  rw [of, set, List.lookup_cons, beq_false_of_ne h]
  exact congrArg (·.getD {}) (lookup_filter_of_ne g h)

end Generations

end SqlLint
