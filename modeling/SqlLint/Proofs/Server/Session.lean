import SqlLint.Proofs.Lint.Latest
import SqlLint.Proofs.Server.Errand

/-!
# Sessions

A `Session` is the service at work: the deeds it has still to do for the errand at hand, and the
lints that workers took so far.  Errands come one after the other; deeds, steps of workers and
changes of the machine follow each other in any order (`Session.step?`).  Whatever happens in a
session is a history of the linter (`exists_follow?_of_follow?`).
-/

namespace SqlLint

/-- What may happen next in a session: an errand comes, the next deed is done, a worker takes a
step, or the machine changes. -/
inductive Incident where
  | errand (e : Errand)
  | proceed
  | labour (x : Labour)
  | surround (machine : Machine)

/-- The service, what it has still to do for an errand, and the lints that were taken at each place,
the last one first. -/
structure Session where
  service : Service
  agenda : List Deed := []
  taken : List (Nat × LintJob) := []

namespace Session

variable {s s' : Session} {x : Incident} {h : List Incident}

/-- The linter of the service. -/
def linter (s : Session) : Linter := s.service.linter

/-- The session after an incident; none if it cannot happen. -/
def step? (s : Session) : Incident → Option Session
  | .errand e => if s.agenda.isEmpty then some { s with agenda := e.deeds s.service } else none
  | .proceed =>
    match s.agenda with
    | [] => none
    | deed :: agenda => some { s with service := deed.perform s.service, agenda }
  | .labour x => (s.linter.labour? x).map fun l =>
    { s with
      service := { s.service with linter := l }
      taken := (s.linter.taking? x).toList ++ s.taken }
  | .surround machine => some { s with service := s.service.modify fun w => { w with machine } }

/-- The session after incidents; none if one of them cannot happen. -/
def follow? (s : Session) (h : List Incident) : Option Session := h.foldlM step? s

/-- What every incident preserves holds after all of them. -/
theorem follow?_preserves {P : Session → Prop}
    (step : ∀ s x s', P s → s.step? x = some s' → P s') (hs : P s) (h' : s.follow? h = some s') :
    P s' :=
  foldlM_preserves step hs h'

/-- The errand that comes is broken up into its deeds. -/
theorem step?_errand_eq_some {e : Errand} (hx : s.step? (.errand e) = some s') :
    s.agenda = [] ∧ s' = { s with agenda := e.deeds s.service } := by
  rw [step?] at hx
  split at hx
  · next idle => exact ⟨List.isEmpty_iff.1 idle, (Option.some.inj hx).symm⟩
  · cases hx

/-- The next deed is done. -/
theorem step?_proceed_eq_some (hx : s.step? .proceed = some s') :
    ∃ deed agenda, s.agenda = deed :: agenda ∧
      s' = { s with service := deed.perform s.service, agenda } := by
  rw [step?] at hx
  split at hx
  · cases hx
  · next deed agenda hagenda => exact ⟨deed, agenda, hagenda, (Option.some.inj hx).symm⟩

/-! ## Sessions and histories -/

/-- A deed is a part of a history of the linter. -/
theorem exists_follow?_of_perform (s : Service) (deed : Deed) :
    ∃ g, s.linter.follow? g = some (deed.perform s).linter := by
  cases deed with
  | store change => exact ⟨[.elsewhere _], rfl⟩
  | configure config => exact ⟨[.elsewhere _], rfl⟩
  | refresh => exact ⟨[.elsewhere _], rfl⟩
  | trigger uri source force => exact ⟨[.trigger uri source force], rfl⟩
  | drop uri => exact ⟨[.drop uri], rfl⟩
  | retire uri => exact ⟨[.retire uri], rfl⟩
  | clear uri => exact ⟨[.clear uri], rfl⟩
  | reset => exact ⟨[.reset], rfl⟩
  | send message => exact ⟨[.elsewhere _], rfl⟩
  | lintProject =>
    rw [Deed.perform, Service.lintProjectIfEnabled]
    split
    · cases s.root with
      | none => exact ⟨[], rfl⟩
      | some root =>
        dsimp only [Service.lintRoot, Service.modifyLinter]
        cases started : s.linter.startProject root false with
        | none => exact ⟨[], rfl⟩
        | some l =>
          refine ⟨[.startProject root false], ?_⟩
          rw [Linter.follow?_cons, Linter.move?, started]
          rfl
    · exact ⟨[], rfl⟩

theorem exists_follow?_of_step? (hx : s.step? x = some s') :
    ∃ g, s.linter.follow? g = some s'.linter := by
  cases x with
  | errand e =>
    obtain ⟨-, rfl⟩ := step?_errand_eq_some hx
    exact ⟨[], rfl⟩
  | proceed =>
    obtain ⟨deed, agenda, -, rfl⟩ := step?_proceed_eq_some hx
    exact exists_follow?_of_perform s.service deed
  | labour x =>
    obtain ⟨l, hl, rfl⟩ := Option.map_eq_some_iff.1 hx
    refine ⟨[.labour x], ?_⟩
    rw [Linter.follow?_cons, Linter.move?, hl]
    rfl
  | surround machine =>
    obtain rfl := Option.some.inj hx
    exact ⟨[.elsewhere _], rfl⟩

/-- What happens in a session is a history of the linter. -/
theorem exists_follow?_of_follow? (h' : s.follow? h = some s') :
    ∃ g, s.linter.follow? g = some s'.linter := by
  refine follow?_preserves (P := fun t => ∃ g, s.linter.follow? g = some t.linter)
    (fun t x t' ⟨g, hg⟩ hx => ?_) ⟨[], rfl⟩ h'
  obtain ⟨g', hg'⟩ := exists_follow?_of_step? hx
  refine ⟨g ++ g', ?_⟩
  rw [Linter.follow?_append, hg]
  exact hg'

end Session

end SqlLint
