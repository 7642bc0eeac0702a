import Mathlib.Data.List.Infix
import Mathlib.Data.List.TakeWhile
import SqlLint.Tool.Version

/-!
# Versions in outputs

An output tells the version that the first three runs of digits with dots between them write.  Which ones
are first is said without reading the output: none begin further left, and of those that begin there none
take more digits, in the first run before the second and in the second before the third (`IsFirst`).  So
a version that is written is read back in the middle of any text that leaves it alone (`Surrounds`), and
what comes later in an output never makes up for three runs that write no version.
-/

namespace SqlLint

open Text

namespace ToolVersion

variable {cs xs rest before before' a b c a' b' c' : List Char} {x : Char} {pre suf : List Char}

/-- Digits, at least one. -/
def IsRun (xs : List Char) : Prop := xs ≠ [] ∧ ∀ x ∈ xs, isDigit x = true

/-- Behind some characters of a text, three runs of digits stand with dots between them. -/
structure Found (cs before a b c : List Char) : Prop where
  major : IsRun a
  minor : IsRun b
  patch : IsRun c
  stands : before ++ (a ++ '.' :: (b ++ '.' :: c)) <+: cs

/-- Three runs take no more digits than three others: the first of them that differs in length is shorter. -/
def TakesAtMost (a' b' c' a b c : List Char) : Prop :=
  a'.length < a.length ∨ a'.length = a.length ∧
    (b'.length < b.length ∨ b'.length = b.length ∧ c'.length ≤ c.length)

/-- These are the first three runs of digits with dots between them. -/
structure IsFirst (cs before a b c : List Char) : Prop where
  found : Found cs before a b c
  leftmost : ∀ before' a' b' c', Found cs before' a' b' c' → before.length ≤ before'.length
  greedy : ∀ a' b' c', Found cs before a' b' c' → TakesAtMost a' b' c' a b c

/-- Two texts leave alone what stands between them: before it no digit has a dot behind it, and no digit
touches it. -/
structure Surrounds (pre suf : List Char) : Prop where
  undotted : ∀ x, [x, '.'] <:+: pre → isDigit x = false
  ends : ∀ x, pre.getLast? = some x → isDigit x = false
  begins : ∀ x, suf.head? = some x → isDigit x = false

/-- A run of digits writes no number of 32 bits. -/
def IsUnreadable (xs : List Char) : Prop :=
  (∃ x ∈ xs, x.isDigit = false) ∨ UInt32.size ≤ decimalValue xs

/-! ## Runs of digits -/

theorem isDigit_of_ascii (h : x.isDigit = true) : isDigit x = true := by
  have range : 48 ≤ x.toNat ∧ x.toNat ≤ 57 := by
    simpa [Char.isDigit, UInt32.le_iff_toNat_le] using h
  rw [isDigit, digitZeros, List.any_cons]
  simp [range]

theorem digitRun?_eq_some_iff : digitRun? cs = some (xs, rest) ↔
    IsRun xs ∧ cs = xs ++ rest ∧ ∀ x, rest.head? = some x → isDigit x = false := by
  constructor
  · intro h
    rw [digitRun?] at h
    split at h
    · cases h
    · next nonempty =>
      obtain ⟨rfl, rfl⟩ := Prod.mk.inj (Option.some.inj h)
      refine ⟨⟨nonempty, fun x hx => List.mem_takeWhile_imp hx⟩,
        List.takeWhile_append_dropWhile.symm, fun x hx => ?_⟩
      have stops := List.head?_dropWhile_not isDigit cs
      simpa [hx] using stops
  · rintro ⟨⟨nonempty, digits⟩, rfl, stops⟩
    obtain ⟨taken, left⟩ : rest.takeWhile isDigit = [] ∧ rest.dropWhile isDigit = rest := by
      cases rest with
      | nil => exact ⟨rfl, rfl⟩
      | cons x rest => simp [stops x rfl]
    rw [digitRun?, List.takeWhile_append_of_pos digits, List.dropWhile_append_of_pos digits, taken,
      left, List.append_nil, if_neg nonempty]

theorem digitRun?_dot (run : IsRun xs) (rest : List Char) :
    digitRun? (xs ++ '.' :: rest) = some (xs, '.' :: rest) :=
  digitRun?_eq_some_iff.2 ⟨run, rfl, by rintro x ⟨⟩; decide⟩

/-- A run of digits goes on as far as digits follow. -/
theorem exists_digitRun? (run : IsRun xs) (rest : List Char) :
    ∃ more last, digitRun? (xs ++ rest) = some (xs ++ more, last) := by
  refine ⟨rest.takeWhile isDigit, rest.dropWhile isDigit, ?_⟩
  rw [digitRun?, List.takeWhile_append_of_pos run.2, List.dropWhile_append_of_pos run.2,
    if_neg fun empty => run.1 (List.append_eq_nil_iff.1 empty).1]

/-! ## Three runs at the start of a text -/

theorem Found.at_start (h : Found cs [] a b c) :
    ∃ more, tripleAtStart? cs = some (a, b, c ++ more) := by
  obtain ⟨rest, rfl⟩ := h.stands
  obtain ⟨more, last, run⟩ := exists_digitRun? h.patch rest
  refine ⟨more, ?_⟩
  have text : [] ++ (a ++ '.' :: (b ++ '.' :: c)) ++ rest =
      a ++ '.' :: (b ++ '.' :: (c ++ rest)) := by simp
  simp only [tripleAtStart?, text, digitRun?_dot h.major, digitRun?_dot h.minor, run, Option.map_some]

theorem found_of_tripleAtStart? (h : tripleAtStart? cs = some (a, b, c)) : Found cs [] a b c := by
  unfold tripleAtStart? at h
  split at h
  · next a' cs' major =>
    split at h
    · next b' cs'' minor =>
      obtain ⟨⟨c', rest⟩, patch, same⟩ := Option.map_eq_some_iff.1 h
      obtain ⟨rfl, rfl, rfl⟩ : a' = a ∧ b' = b ∧ c' = c := by simpa using same
      obtain ⟨hmajor, rfl, -⟩ := digitRun?_eq_some_iff.1 major
      obtain ⟨hminor, rfl, -⟩ := digitRun?_eq_some_iff.1 minor
      obtain ⟨hpatch, rfl, -⟩ := digitRun?_eq_some_iff.1 patch
      exact ⟨hmajor, hminor, hpatch, rest, by simp⟩
    · cases h
  · cases h

theorem isFirst_nil_iff : IsFirst cs [] a b c ↔ tripleAtStart? cs = some (a, b, c) := by
  constructor
  · intro h
    obtain ⟨more, found⟩ := h.found.at_start
    -- The last run has all digits that follow, as those who take more are found as well.
    have most := h.greedy _ _ _ (found_of_tripleAtStart? found)
    have noMore : more = [] := by
      rw [TakesAtMost, List.length_append] at most
      exact List.length_eq_zero_iff.1 (by omega)
    rw [found, noMore, List.append_nil]
  · intro h
    refine ⟨found_of_tripleAtStart? h, fun _ _ _ _ _ => Nat.zero_le _, fun a' b' c' found => ?_⟩
    obtain ⟨more, same⟩ := found.at_start
    obtain ⟨rfl, rfl, rfl⟩ : a = a' ∧ b = b' ∧ c = c' ++ more := by simpa [h] using same
    rw [TakesAtMost, List.length_append]
    omega

/-! ## Three runs in a text -/

theorem found_cons_iff : Found (x :: cs) (x :: before) a b c ↔ Found cs before a b c := by
  constructor
  · rintro ⟨major, minor, patch, stands⟩
    exact ⟨major, minor, patch, (List.cons_prefix_cons.1 stands).2⟩
  · rintro ⟨major, minor, patch, stands⟩
    exact ⟨major, minor, patch, List.cons_prefix_cons.2 ⟨rfl, stands⟩⟩

/-- If three runs do not stand at the start, they stand behind the first character. -/
theorem Found.exists_cons (unmatched : tripleAtStart? (x :: cs) = none)
    (h : Found (x :: cs) before a b c) : ∃ later, before = x :: later ∧ Found cs later a b c := by
  cases before with
  | nil =>
    obtain ⟨more, matched⟩ := h.at_start
    rw [unmatched] at matched
    cases matched
  | cons y later =>
    obtain rfl : y = x := (List.cons_prefix_cons.1 h.stands).1
    exact ⟨later, rfl, found_cons_iff.1 h⟩

theorem isFirst_cons_iff (unmatched : tripleAtStart? (x :: cs) = none) :
    IsFirst (x :: cs) (x :: before) a b c ↔ IsFirst cs before a b c := by
  constructor
  · intro h
    refine ⟨found_cons_iff.1 h.found, fun before' a' b' c' found => ?_, fun a' b' c' found =>
      h.greedy a' b' c' (found_cons_iff.2 found)⟩
    exact Nat.le_of_succ_le_succ (h.leftmost (x :: before') a' b' c' (found_cons_iff.2 found))
  · intro h
    refine ⟨found_cons_iff.2 h.found, fun before' a' b' c' found => ?_, fun a' b' c' found =>
      h.greedy a' b' c' (found_cons_iff.1 found)⟩
    obtain ⟨later, rfl, behind⟩ := found.exists_cons unmatched
    exact Nat.succ_le_succ (h.leftmost later a' b' c' behind)

theorem triple?_of_atStart (h : tripleAtStart? cs = some (a, b, c)) :
    triple? cs = some (a, b, c) := by
  cases cs with
  | nil => cases h
  | cons x cs => rw [triple?, h, Option.some_or]

/-- The first three runs are those that are found. -/
theorem triple?_eq_some_iff : triple? cs = some (a, b, c) ↔ ∃ before, IsFirst cs before a b c := by
  induction cs with
  | nil =>
    refine iff_of_false (by rintro ⟨⟩) ?_
    rintro ⟨before, h⟩
    simpa using h.found.stands
  | cons x cs ih =>
    cases start : tripleAtStart? (x :: cs) with
    | some t =>
      obtain ⟨a', b', c'⟩ := t
      rw [triple?_of_atStart start, ← start, ← isFirst_nil_iff]
      refine ⟨fun h => ⟨[], h⟩, ?_⟩
      rintro ⟨before, h⟩
      have leftmost := h.leftmost _ _ _ _ (found_of_tripleAtStart? start)
      rwa [← List.length_eq_zero_iff.1 (Nat.le_zero.1 leftmost)]
    | none =>
      rw [triple?, start, Option.none_or, ih]
      constructor
      · rintro ⟨before, h⟩
        exact ⟨x :: before, (isFirst_cons_iff start).2 h⟩
      · rintro ⟨before, h⟩
        obtain ⟨later, rfl, -⟩ := h.found.exists_cons start
        exact ⟨later, (isFirst_cons_iff start).1 h⟩

theorem triple?_eq_none_iff :
    triple? cs = none ↔ ∀ before a b c, ¬ Found cs before a b c := by
  induction cs with
  | nil =>
    refine iff_of_true rfl fun before a b c found => ?_
    simpa using found.stands
  | cons x cs ih =>
    cases start : tripleAtStart? (x :: cs) with
    | some t =>
      obtain ⟨a, b, c⟩ := t
      rw [triple?_of_atStart start]
      exact iff_of_false (by rintro ⟨⟩)
        fun nowhere => nowhere _ _ _ _ (found_of_tripleAtStart? start)
    | none =>
      rw [triple?, start, Option.none_or, ih]
      constructor
      · intro nowhere before a b c found
        obtain ⟨later, -, found⟩ := found.exists_cons start
        exact nowhere later a b c found
      · intro nowhere before a b c found
        exact nowhere (x :: before) a b c (found_cons_iff.2 found)

/-! ## Versions that are written -/

/-- No three runs begin in a text in which no digit has a dot behind it, and which does not end in a digit. -/
theorem Surrounds.not_found (h : Surrounds (x :: pre) suf) : ¬ Found (x :: pre ++ cs) [] a b c := by
  intro found
  have dotted : a ++ ['.'] <+: x :: pre ++ cs := by
    refine List.IsPrefix.trans ?_ found.stands
    exact ⟨b ++ '.' :: c, by simp⟩
  obtain ⟨init, last, rfl⟩ : ∃ init last, a = init ++ [last] :=
    ⟨_, _, (List.dropLast_append_getLast found.major.1).symm⟩
  have digit : isDigit last = true := found.major.2 last (by simp)
  by_cases short : (init ++ [last]).length < (x :: pre).length
  · -- The dot behind the first run is in the text.
    have inside : init ++ [last] ++ ['.'] <+: x :: pre :=
      List.prefix_of_prefix_length_le dotted (List.prefix_append _ _)
        (by rw [List.length_append]; exact short)
    obtain ⟨t, ht⟩ := inside
    have apart := h.undotted last ⟨init, t, by rw [← ht]; simp⟩
    rw [digit] at apart
    cases apart
  · -- The first run goes on to the end of the text.
    have inside : x :: pre <+: init ++ [last] :=
      List.prefix_of_prefix_length_le (List.prefix_append _ _)
        ((List.prefix_append _ _).trans dotted) (Nat.not_lt.1 short)
    obtain ⟨y, hy⟩ : ∃ y, (x :: pre).getLast? = some y :=
      ⟨_, List.getLast?_eq_some_getLast (List.cons_ne_nil x pre)⟩
    have apart := h.ends y hy
    rw [found.major.2 y (inside.subset (List.mem_of_getLast? hy))] at apart
    cases apart

theorem Surrounds.of_cons (h : Surrounds (x :: pre) suf) : Surrounds pre suf where
  undotted y hy := h.undotted y (hy.trans (List.suffix_cons x pre).isInfix)
  ends y hy := h.ends y (by
    cases pre with
    | nil => cases hy
    | cons z pre => rwa [List.getLast?_cons_cons])
  begins := h.begins

theorem Surrounds.triple?_append (h : Surrounds pre suf) (cs : List Char) :
    triple? (pre ++ cs) = triple? cs := by
  induction pre with
  | nil => rfl
  | cons x pre ih =>
    have unmatched : tripleAtStart? (x :: pre ++ cs) = none := by
      refine Option.eq_none_iff_forall_not_mem.2 fun t ht => ?_
      exact h.not_found (found_of_tripleAtStart? ht)
    rw [List.cons_append] at unmatched ⊢
    rw [triple?, unmatched, Option.none_or, ih h.of_cons]

theorem isRun_toDigits (n : Nat) : IsRun (Nat.toDigits 10 n) :=
  ⟨Nat.toDigits_ne_nil, fun _ hx =>
    isDigit_of_ascii (Nat.isDigit_of_mem_toDigits (by decide) (by decide) hx)⟩

theorem toList_text (v : ToolVersion) : v.text.toList =
    Nat.toDigits 10 v.major.toNat ++ '.' ::
      (Nat.toDigits 10 v.minor.toNat ++ '.' :: Nat.toDigits 10 v.patch.toNat) := by
  simp [text]

theorem tripleAtStart?_text (v : ToolVersion)
    (begins : ∀ x, suf.head? = some x → isDigit x = false) :
    tripleAtStart? (v.text.toList ++ suf) =
      some (Nat.toDigits 10 v.major.toNat, Nat.toDigits 10 v.minor.toNat,
        Nat.toDigits 10 v.patch.toNat) := by
  have patch : digitRun? (Nat.toDigits 10 v.patch.toNat ++ suf) =
      some (Nat.toDigits 10 v.patch.toNat, suf) :=
    digitRun?_eq_some_iff.2 ⟨isRun_toDigits _, rfl, begins⟩
  simp only [toList_text, List.append_assoc, List.cons_append, tripleAtStart?,
    digitRun?_dot (isRun_toDigits _), patch, Option.map_some]

theorem component?_toDigits (n : UInt32) : component? (Nat.toDigits 10 n.toNat) = some n := by
  have value : decimalValue (Nat.toDigits 10 n.toNat) = n.toNat := Nat.ofDigitChars_ten_toDigits
  have digits : (Nat.toDigits 10 n.toNat).all Char.isDigit = true :=
    List.all_eq_true.2 fun _ hx => Nat.isDigit_of_mem_toDigits (by decide) (by decide) hx
  rw [component?, decimal?, value, if_pos ⟨Nat.toDigits_ne_nil, digits, n.toNat_lt⟩]
  exact congrArg some UInt32.ofNat_toNat

theorem component?_eq_none_iff (run : IsRun xs) : component? xs = none ↔ IsUnreadable xs := by
  rw [component?, Option.map_eq_none_iff, decimal?, ite_eq_right_iff, IsUnreadable]
  simp only [ne_eq, run.1, not_false_eq_true, true_and, reduceCtorEq, imp_false, not_and_or,
    List.all_eq_true, not_forall, Bool.not_eq_true, Nat.not_lt, exists_prop]

theorem parse?_of_triple? {output : String} (h : triple? output.toList = some (a, b, c)) :
    parse? output = do return ⟨← component? a, ← component? b, ← component? c⟩ := by
  rw [parse?, h]
  rfl

theorem parse?_of_isFirst {output : String} (first : IsFirst output.toList before a b c) :
    parse? output = none ↔ ∃ run ∈ [a, b, c], IsUnreadable run := by
  obtain ⟨major, minor, patch, -⟩ := first.found
  rw [parse?_of_triple? (triple?_eq_some_iff.2 ⟨before, first⟩)]
  simp only [List.exists_mem_cons_iff, List.not_mem_nil, false_and, exists_false, or_false,
    ← component?_eq_none_iff major, ← component?_eq_none_iff minor, ← component?_eq_none_iff patch]
  cases component? a <;> cases component? b <;> cases component? c <;> simp

/-- A version that is written in the middle of texts that leave it alone is told by the whole.  If three
runs of digits with dots between them are the first in an output, then it tells no version if and only if
one of them writes no number of 32 bits, whatever comes later; and without such runs it tells none. -/
theorem parse?_tells :
    (∀ (v : ToolVersion) (pre suf : String), Surrounds pre.toList suf.toList →
      parse? (pre ++ v.text ++ suf) = some v) ∧
    (∀ (output : String) (before a b c : List Char), IsFirst output.toList before a b c →
      (parse? output = none ↔ ∃ run ∈ [a, b, c], IsUnreadable run)) ∧
    ∀ output : String, (∀ before a b c, ¬ Found output.toList before a b c) →
      parse? output = none := by
  refine ⟨fun v pre suf h => ?_, fun _ _ _ _ _ => parse?_of_isFirst, fun output nowhere => ?_⟩
  · have first := triple?_of_atStart (tripleAtStart?_text v h.begins)
    rw [← h.triple?_append, ← List.append_assoc, ← String.toList_append, ← String.toList_append]
      at first
    rw [parse?_of_triple? first, component?_toDigits, component?_toDigits, component?_toDigits]
    rfl
  · rw [parse?, triple?_eq_none_iff.2 nowhere]
    rfl

/-- A version behind other digits and before a dot is told, but not behind one with a number that is too
large; and two numbers are no version. -/
theorem parse?_tells_behindAnother :
    Surrounds "py3 on v2, ".toList ".1".toList ∧
    parse? ("py3 on v2, " ++ text ⟨3, 0, 7⟩ ++ ".1") = some ⟨3, 0, 7⟩ ∧
    IsFirst "4294967296.0.1, 3.0.7".toList [] "4294967296".toList "0".toList "1".toList ∧
    parse? "4294967296.0.1, 3.0.7" = none ∧
    (∀ before a b c, ¬ Found "version 3.0".toList before a b c) ∧
    parse? "version 3.0" = none := by
  have dotless : '.' ∉ "py3 on v2, ".toList := by decide +kernel
  have last : "py3 on v2, ".toList.getLast? = some ' ' := by decide +kernel
  have next : ".1".toList.head? = some '.' := by decide +kernel
  have apart : Surrounds "py3 on v2, ".toList ".1".toList :=
    { undotted := fun x h => absurd (h.subset (by simp)) dotless
      ends := fun x h => Option.some.inj (last.symm.trans h) ▸ by decide
      begins := fun x h => Option.some.inj (next.symm.trans h) ▸ by decide }
  have first : IsFirst "4294967296.0.1, 3.0.7".toList [] "4294967296".toList "0".toList "1".toList :=
    isFirst_nil_iff.2 (by decide +kernel)
  have missing : ∀ before a b c, ¬ Found "version 3.0".toList before a b c :=
    triple?_eq_none_iff.1 (by decide +kernel)
  exact ⟨apart, parse?_tells.1 ⟨3, 0, 7⟩ _ _ apart, first,
    (parse?_tells.2.1 _ _ _ _ _ first).2 ⟨_, List.mem_cons_self, .inr (by decide +kernel)⟩,
    missing, parse?_tells.2.2 _ missing⟩

end ToolVersion

end SqlLint
