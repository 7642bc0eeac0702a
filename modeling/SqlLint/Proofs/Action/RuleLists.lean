import Mathlib.Data.List.Basic
import SqlLint.Action.Noqa

/-!
# Lists of rules in comments

What a comment that silences rules looks like, told without the finder: the mark and a colon, directly
after them a list of rules with commas between them, and no word that runs into the list
(`Silences`).  Blanks may stand around each rule.  The lists are built from the left, so that what
awaits one more rule (`AwaitsRule`) is what an edit at the end of a line can go on with; `EndsFor` says
how a line has to end for each of the additions, and `silences_added_iff` that this is all there is.
-/

namespace SqlLint

open Text

variable {xs ys w v text list line content ends : List Char} {rules : List (List Char)}
  {rule : List Char} {c : Char}

/-! ## Lists of rules -/

/-- A rule: letters, then digits. -/
def IsRule (word : List Char) : Prop :=
  ∃ letters digits, word = letters ++ digits ∧ letters ≠ [] ∧ digits ≠ [] ∧
    (∀ c ∈ letters, c.isAlpha = true) ∧ ∀ c ∈ digits, isDigit c = true

/-- The text is the beginning of a list with these rules, and another rule may follow. -/
inductive AwaitsRule : List Char → List (List Char) → Prop where
  | start {gap : List Char} : isBlankText gap = true → AwaitsRule gap []
  | next {text rule gap gap' : List Char} {rules : List (List Char)} : AwaitsRule text rules →
      IsRule rule → isBlankText gap = true → isBlankText gap' = true →
      AwaitsRule (text ++ rule ++ gap ++ ',' :: gap') (rules ++ [rule])

/-- The text is a list of these rules, at least one, with commas between them. -/
inductive IsRuleList : List Char → List (List Char) → Prop where
  | last {text rule : List Char} {rules : List (List Char)} : AwaitsRule text rules →
      IsRule rule → IsRuleList (text ++ rule) (rules ++ [rule])

/-- What a comment that silences some rules begins with. -/
def ruleMark : List Char := NoqaComment.mark ++ [':']

/-- A word before the text ends where the text begins. -/
def EndsWord (text : List Char) : Prop := ∀ c, text.head? = some c → isWordChar c = false

/-- The line has a comment that silences the rules: a mark, and directly after it the list of them. -/
def Silences (line : List Char) (rules : List (List Char)) : Prop :=
  ∃ before list after, line = before ++ ruleMark ++ list ++ after ∧ IsRuleList list rules ∧
    EndsWord after

/-! ## The characters of words -/

theorem isWordChar_of_isAlpha (h : c.isAlpha = true) : isWordChar c = true := by
  have separators : wordSeparators.any Char.isAlpha = false := by decide
  have inner : c ∉ wordSeparators := fun mem => List.any_eq_false.1 separators c mem h
  have seen : isBlank c = false := by
    have cases : (decide ('A'.val ≤ c.val ∧ c.val ≤ 'Z'.val) ||
        decide ('a'.val ≤ c.val) && decide (c.val ≤ 'z'.val)) = true := h
    simp only [Bool.or_eq_true, Bool.and_eq_true, decide_eq_true_eq, UInt32.le_iff_toNat_le] at cases
    have range : 0x41 ≤ c.toNat ∧ c.toNat ≤ 0x7A := by
      rcases cases with upper | lower
      · exact ⟨upper.1, Nat.le_trans upper.2 (by decide)⟩
      · exact ⟨Nat.le_trans (by decide) lower.1, lower.2⟩
    simp only [isBlank, Bool.or_eq_false_iff, Bool.and_eq_false_iff, decide_eq_false_iff_not,
      beq_eq_false_iff_ne]
    omega
  simp [isWordChar, seen, inner]

theorem isWordChar_of_isDigit (h : isDigit c = true) : isWordChar c = true := by
  have separators : wordSeparators.any isDigit = false := by decide
  have inner : c ∉ wordSeparators := fun mem => List.any_eq_false.1 separators c mem h
  have seen : isBlank c = false := by
    -- No script has digits where blanks are.
    have zeros : ∀ z ∈ digitZeros, z = 0x30 ∨ (0xA0 < z ∧ z + 9 < 0x1680) ∨
        (0x1680 < z ∧ z + 9 < 0x2000) ∨ 0x3000 < z := by decide
    obtain ⟨z, mem, range⟩ := List.any_eq_true.1 h
    have apart := zeros z mem
    simp only [Bool.and_eq_true, decide_eq_true_eq] at range
    simp only [isBlank, Bool.or_eq_false_iff, Bool.and_eq_false_iff, decide_eq_false_iff_not,
      beq_eq_false_iff_ne]
    omega
  simp [isWordChar, seen, inner]

theorem isWordChar_of_isBlank (h : isBlank c = true) : isWordChar c = false := by
  simp [isWordChar, h]

theorem IsRule.isWordChar (h : IsRule rule) (hc : c ∈ rule) : isWordChar c = true := by
  obtain ⟨letters, digits, rfl, -, -, alpha, digit⟩ := h
  obtain hc | hc := List.mem_append.1 hc
  · exact isWordChar_of_isAlpha (alpha c hc)
  · exact isWordChar_of_isDigit (digit c hc)

theorem IsRule.exists_digit (h : IsRule rule) : ∃ init c, rule = init ++ [c] ∧ isDigit c = true := by
  obtain ⟨letters, digits, rfl, -, nonempty, -, digit⟩ := h
  obtain ⟨init, c, rfl⟩ := (List.eq_nil_or_concat digits).resolve_left nonempty
  rw [List.concat_eq_append] at digit ⊢
  exact ⟨letters ++ init, c, (List.append_assoc ..).symm, digit c (by simp)⟩

theorem IsRuleList.exists_digit (h : IsRuleList list rules) :
    ∃ init c, list = init ++ [c] ∧ isDigit c = true := by
  obtain ⟨-, isRule⟩ := h
  obtain ⟨init, c, rfl, digit⟩ := isRule.exists_digit
  exact ⟨_, c, (List.append_assoc ..).symm, digit⟩

theorem EndsWord.append (h : EndsWord xs) (h' : EndsWord ys) : EndsWord (xs ++ ys) := by
  cases xs with
  | nil => exact h'
  | cons => exact h

/-! ## What awaits a rule -/

theorem AwaitsRule.isWordChar_of_mem_getLast? (h : AwaitsRule text rules)
    (hc : text.getLast? = some c) : isWordChar c = false := by
  have blank {gap : List Char} (hgap : isBlankText gap = true) (hc : gap.getLast? = some c) :
      Text.isWordChar c = false :=
    isWordChar_of_isBlank (List.all_eq_true.1 hgap c (List.mem_of_getLast? hc))
  cases h with
  | start hgap => exact blank hgap hc
  | @next _ _ _ gap' _ _ _ _ hgap =>
    obtain rfl | ⟨init, last, rfl⟩ := List.eq_nil_or_concat gap'
    · rw [List.getLast?_concat] at hc
      exact Option.some.inj hc ▸ rfl
    · rw [List.concat_eq_append, ← List.cons_append, ← List.append_assoc,
        List.getLast?_concat] at hc
      exact blank hgap (by rw [List.concat_eq_append, List.getLast?_concat, hc])

/-- What awaits a rule ends in a blank, before which it did so already, or in the comma after a list. -/
theorem awaitsRule_concat_iff : AwaitsRule (text ++ [c]) rules ↔
    isBlank c = true ∧ AwaitsRule text rules ∨
    c = ',' ∧ ∃ list gap, text = list ++ gap ∧ IsRuleList list rules ∧ isBlankText gap = true := by
  have concat {gap : List Char} {b : Char} :
      isBlankText (gap ++ [b]) = true ↔ isBlankText gap = true ∧ isBlank b = true := by
    simp [isBlankText]
  constructor
  · generalize whole : text ++ [c] = text'
    rintro (hgap | @⟨text', rule, gap, gap', rules, awaits, isRule, hgap, hgap'⟩)
    · obtain ⟨hgap, hc⟩ := concat.1 (whole ▸ hgap)
      exact .inl ⟨hc, .start hgap⟩
    · obtain rfl | ⟨init, last, rfl⟩ := List.eq_nil_or_concat gap'
      · obtain ⟨rfl, same⟩ := List.append_inj' whole rfl
        exact .inr ⟨List.singleton_inj.1 same, _, gap, rfl, .last awaits isRule, hgap⟩
      · rw [List.concat_eq_append] at whole hgap'
        rw [← List.cons_append, ← List.append_assoc] at whole
        obtain ⟨rfl, same⟩ := List.append_inj' whole rfl
        obtain rfl := List.singleton_inj.1 same
        exact .inl ⟨(concat.1 hgap').2, .next awaits isRule hgap (concat.1 hgap').1⟩
  · rintro (⟨hc, hgap | ⟨awaits, isRule, hgap, hgap'⟩⟩ | ⟨rfl, _, gap, rfl, ⟨awaits, isRule⟩, hgap⟩)
    · exact .start (concat.2 ⟨hgap, hc⟩)
    · rw [List.append_assoc, List.cons_append]
      exact .next awaits isRule hgap (concat.2 ⟨hgap', hc⟩)
    · exact .next awaits isRule hgap rfl

theorem awaitsRule_concat_space : AwaitsRule (text ++ [' ']) rules ↔ AwaitsRule text rules := by
  rw [awaitsRule_concat_iff]
  simp [show isBlank ' ' = true from rfl]

theorem awaitsRule_concat_comma : AwaitsRule (text ++ [',']) rules ↔
    ∃ list gap, text = list ++ gap ∧ IsRuleList list rules ∧ isBlankText gap = true := by
  rw [awaitsRule_concat_iff]
  simp [show isBlank ',' = false from rfl]

theorem not_awaitsRule_concat_colon : ¬ AwaitsRule (text ++ [':']) rules := by
  rw [awaitsRule_concat_iff]
  simp [show isBlank ':' = false from rfl]

/-! ## What awaits a rule in a line -/

/-- A comment at the end of the line awaits a rule after these. -/
def AwaitsRuleIn (line : List Char) (rules : List (List Char)) : Prop :=
  ∃ before text, line = before ++ ruleMark ++ text ∧ AwaitsRule text rules

theorem awaitsRuleIn_concat (hc : c ≠ ':') : AwaitsRuleIn (line ++ [c]) rules ↔
    ∃ before text, line = before ++ ruleMark ++ text ∧ AwaitsRule (text ++ [c]) rules := by
  constructor
  · rintro ⟨before, text, whole, awaits⟩
    obtain rfl | ⟨init, last, rfl⟩ := List.eq_nil_or_concat text
    · rw [List.append_nil, ruleMark, ← List.append_assoc] at whole
      exact absurd (List.singleton_inj.1 (List.append_inj' whole rfl).2) hc
    · rw [List.concat_eq_append] at whole awaits
      rw [← List.append_assoc] at whole
      obtain ⟨rfl, same⟩ := List.append_inj' whole rfl
      exact ⟨before, init, rfl, List.singleton_inj.1 same ▸ awaits⟩
  · rintro ⟨before, text, rfl, awaits⟩
    exact ⟨before, text ++ [c], by simp only [List.append_assoc], awaits⟩

theorem awaitsRuleIn_concat_space : AwaitsRuleIn (line ++ [' ']) rules ↔ AwaitsRuleIn line rules := by
  rw [awaitsRuleIn_concat (by decide)]
  simp only [awaitsRule_concat_space, AwaitsRuleIn]

theorem awaitsRuleIn_concat_comma : AwaitsRuleIn (line ++ [',']) rules ↔
    ∃ before list gap, line = before ++ ruleMark ++ list ++ gap ∧ IsRuleList list rules ∧
      isBlankText gap = true := by
  rw [awaitsRuleIn_concat (by decide)]
  simp only [awaitsRule_concat_comma]
  constructor
  · rintro ⟨before, _, rfl, list, gap, rfl, isList, hgap⟩
    exact ⟨before, list, gap, by simp only [List.append_assoc], isList, hgap⟩
  · rintro ⟨before, list, gap, rfl, isList, hgap⟩
    exact ⟨before, list ++ gap, by simp only [List.append_assoc], list, gap, rfl, isList, hgap⟩

/-- Behind a colon there is no list yet. -/
theorem awaitsRuleIn_concat_colon : AwaitsRuleIn (line ++ [':']) rules ↔
    rules = [] ∧ ∃ before, line = before ++ NoqaComment.mark := by
  constructor
  · rintro ⟨before, text, whole, awaits⟩
    obtain rfl | ⟨init, last, rfl⟩ := List.eq_nil_or_concat text
    · rw [List.append_nil, ruleMark, ← List.append_assoc] at whole
      refine ⟨?_, before, (List.append_inj' whole rfl).1⟩
      generalize empty : [] = text' at awaits
      cases awaits with
      | start => rfl
      | next => simp at empty
    · rw [List.concat_eq_append] at whole awaits
      rw [← List.append_assoc] at whole
      obtain rfl := List.singleton_inj.1 (List.append_inj' whole rfl).2
      exact absurd awaits not_awaitsRule_concat_colon
  · rintro ⟨rfl, before, rfl⟩
    exact ⟨before, [], by simp [ruleMark], .start rfl⟩

theorem AwaitsRuleIn.getLast? (h : AwaitsRuleIn line rules) (hc : line.getLast? = some c) :
    isWordChar c = false := by
  obtain ⟨before, text, rfl, awaits⟩ := h
  obtain rfl | filled := eq_or_ne text []
  · rw [List.append_nil, ruleMark, ← List.append_assoc, List.getLast?_concat] at hc
    exact Option.some.inj hc ▸ rfl
  · rw [List.getLast?_append_of_ne_nil _ filled] at hc
    exact awaits.isWordChar_of_mem_getLast? hc

/-- The part of a line in front of a list's end is what awaits its last rule. -/
theorem silences_iff : Silences line rules ↔
    ∃ front rule after rules₀, line = front ++ rule ++ after ∧ rules = rules₀ ++ [rule] ∧
      AwaitsRuleIn front rules₀ ∧ IsRule rule ∧ EndsWord after := by
  constructor
  · rintro ⟨before, _, after, rfl, @⟨text, rule, rules₀, awaits, isRule⟩, ends⟩
    exact ⟨before ++ ruleMark ++ text, rule, after, rules₀, by simp only [List.append_assoc], rfl,
      ⟨before, text, rfl, awaits⟩, isRule, ends⟩
  · rintro ⟨_, rule, after, rules₀, rfl, rfl, ⟨before, text, rfl, awaits⟩, isRule, ends⟩
    exact ⟨before, text ++ rule, after, by simp only [List.append_assoc], .last awaits isRule, ends⟩

/-! ## Words in a text -/

/-- The text does not end in the middle of a word. -/
def BeginsWord (text : List Char) : Prop := ∀ c, text.getLast? = some c → isWordChar c = false

/-- All characters belong to words. -/
def IsWord (word : List Char) : Prop := ∀ c ∈ word, isWordChar c = true

theorem EndsWord.of_append (h : EndsWord (xs ++ ys)) : EndsWord xs := by
  cases xs with
  | nil => exact nofun
  | cons => exact h

theorem EndsWord.eq_nil (h : EndsWord (xs ++ ys)) (word : IsWord xs) : xs = [] := by
  cases xs with
  | nil => rfl
  | cons c xs =>
    have := word c (List.mem_cons_self ..)
    rw [h c rfl] at this
    cases this

theorem BeginsWord.eq_nil (h : BeginsWord (xs ++ ys)) (word : IsWord ys) : ys = [] := by
  obtain rfl | ⟨init, c, rfl⟩ := List.eq_nil_or_concat ys
  · rfl
  · rw [List.concat_eq_append] at h word
    have := word c (by simp)
    rw [h c (by rw [← List.append_assoc, List.getLast?_concat])] at this
    cases this

theorem eq_of_append_word (h : xs ++ w = ys ++ v) (hxs : BeginsWord xs) (hys : BeginsWord ys)
    (hw : IsWord w) (hv : IsWord v) : xs = ys ∧ w = v := by
  obtain ⟨as, rfl, rfl⟩ | ⟨as, rfl, rfl⟩ := List.append_eq_append_iff.1 h
  · obtain rfl := hys.eq_nil fun c hc => hw c (List.mem_append_left _ hc)
    exact ⟨(List.append_nil _).symm, rfl⟩
  · obtain rfl := hxs.eq_nil fun c hc => hv c (List.mem_append_left _ hc)
    exact ⟨List.append_nil _, rfl⟩

/-- Two words of a text are the same one, or one stands before the other. -/
theorem words_cases {zs ws : List Char} (h : xs ++ w ++ zs = ys ++ v ++ ws) (hxs : BeginsWord xs)
    (hys : BeginsWord ys) (hw : IsWord w) (hv : IsWord v) (hzs : EndsWord zs) (hws : EndsWord ws) :
    (∃ as, ys = xs ++ w ++ as ∧ zs = as ++ v ++ ws) ∨ (xs = ys ∧ w = v ∧ zs = ws) ∨
      ∃ as, ws = as ++ w ++ zs := by
  have same {zs ws : List Char} (h : xs ++ w ++ zs = ys ++ v ++ ws) (eq : zs = ws) :
      xs = ys ∧ w = v ∧ zs = ws := by
    subst eq
    obtain ⟨rfl, rfl⟩ := eq_of_append_word (List.append_cancel_right h) hxs hys hw hv
    exact ⟨rfl, rfl, rfl⟩
  rw [List.append_assoc ys] at h
  obtain ⟨as, rfl, rfl⟩ | ⟨bs, front, tail⟩ := List.append_eq_append_iff.1 h
  · exact .inl ⟨as, rfl, (List.append_assoc ..).symm⟩
  rw [← List.append_assoc] at h
  obtain ⟨cs, rfl, rfl⟩ | ⟨cs, rfl, rfl⟩ := List.append_eq_append_iff.1 tail
  · rw [← List.append_assoc] at front
    obtain ⟨ds, -, rfl⟩ | ⟨as, -, rfl⟩ := List.append_eq_append_iff.1 front
    · obtain rfl := hws.eq_nil fun c hc => hw c (List.mem_append_right _ hc)
      exact .inr (.inl (same h rfl))
    · exact .inr (.inr ⟨as, rfl⟩)
  · obtain rfl := hzs.eq_nil fun c hc => hv c (List.mem_append_right _ hc)
    exact .inr (.inl (same h rfl))

/-! ## Rules added at the end of a line -/

/-- What stands before the rule that is added, by how the list of the comment ends. -/
def ruleLead : Option NoqaList → List Char
  | none => " -- noqa: ".toList
  | some .none => ": ".toList
  | some .open_ => " ".toList
  | some .closed => ", ".toList

theorem toList_noqaAddition (comment : Option NoqaComment) (rule : String) :
    (noqaAddition comment rule).toList = ruleLead (comment.map (·.list)) ++ rule.toList := by
  unfold noqaAddition
  split <;> next h => rw [h, String.toList_append]; rfl

/-- The line ends so that one more rule can be added: after a mark alone, after a list, or after a list
and a comma, whatever the list is said to end with; blanks may follow a list. -/
def EndsFor (content : List Char) : Option NoqaList → List (List Char) → Prop
  | none, rules => rules = []
  | some .none, rules => rules = [] ∧ ∃ before, content = before ++ NoqaComment.mark
  | some .open_, rules => AwaitsRuleIn content rules
  | some .closed, rules => ∃ before list gap, content = before ++ ruleMark ++ list ++ gap ∧
      IsRuleList list rules ∧ isBlankText gap = true

theorem awaitsRuleIn_lead_iff (kind : Option NoqaList) :
    AwaitsRuleIn (content ++ ruleLead kind) rules ↔ EndsFor content kind rules := by
  match kind with
  | none =>
    have split : content ++ ruleLead none = content ++ [' '] ++ NoqaComment.mark ++ [':'] ++ [' '] := by
      simp only [List.append_assoc]
      rfl
    rw [split, awaitsRuleIn_concat_space, awaitsRuleIn_concat_colon]
    exact and_iff_left ⟨_, rfl⟩
  | some .none =>
    rw [show ruleLead (some .none) = [':'] ++ [' '] from rfl, ← List.append_assoc,
      awaitsRuleIn_concat_space, awaitsRuleIn_concat_colon, EndsFor]
  | some .open_ => exact awaitsRuleIn_concat_space
  | some .closed =>
    rw [show ruleLead (some .closed) = [','] ++ [' '] from rfl, ← List.append_assoc,
      awaitsRuleIn_concat_space, awaitsRuleIn_concat_comma, EndsFor]

theorem exists_ruleLead_eq (kind : Option NoqaList) : ∃ init, ruleLead kind = init ++ [' '] := by
  match kind with
  | none => exact ⟨" -- noqa:".toList, rfl⟩
  | some .none => exact ⟨[':'], rfl⟩
  | some .open_ => exact ⟨[], rfl⟩
  | some .closed => exact ⟨[','], rfl⟩

theorem ruleLead_sublist (kind : Option NoqaList) :
    (ruleLead kind).Sublist " -- noqa:, ".toList := by
  match kind with
  | none | some .none | some .open_ | some .closed => decide

/-- What leads to a rule is made of a few characters. -/
theorem eq_false_of_mem_ruleLead {kind : Option NoqaList} {p : Char → Bool}
    (never : " -- noqa:, ".toList.any p = false) (h : c ∈ ruleLead kind) : p c = false :=
  Bool.eq_false_iff.2 (List.any_eq_false.1 never c ((ruleLead_sublist kind).subset h))

theorem endsWord_ruleLead_append (kind : Option NoqaList) (xs : List Char) :
    EndsWord (ruleLead kind ++ xs) := by
  intro c hc
  match kind with
  | none | some .none | some .open_ | some .closed => exact Option.some.inj hc ▸ rfl

/-- A rule is not in a text without digits. -/
theorem exists_of_append_digitless {front after : List Char} (isRule : IsRule rule)
    (place : xs ++ ys = front ++ rule ++ after) (digitless : ∀ c ∈ ys, isDigit c = false) :
    ∃ between, xs = front ++ rule ++ between ∧ after = between ++ ys := by
  obtain ⟨bs, upTo, rfl⟩ | ⟨between, rfl, rfl⟩ := List.append_eq_append_iff.1 place
  · obtain rfl | ⟨init', last, rfl⟩ := List.eq_nil_or_concat bs
    · exact ⟨[], by rw [upTo, List.append_nil, List.append_nil], rfl⟩
    · obtain ⟨init, digit, rfl, isDigit_⟩ := isRule.exists_digit
      rw [List.concat_eq_append, ← List.append_assoc, ← List.append_assoc] at upTo
      obtain rfl := List.singleton_inj.1 (List.append_inj' upTo rfl).2
      rw [digitless digit (by simp)] at isDigit_
      cases isDigit_
  · exact ⟨between, rfl, rfl⟩

/-- A line has the lists that it has without a part at its end that holds no rule. -/
theorem silences_append_iff (hends : EndsWord ends) (digitless : ∀ c ∈ ends, isDigit c = false) :
    Silences (content ++ ends) rules ↔ Silences content rules := by
  constructor
  · intro h
    obtain ⟨front, rule, after, rules₀, whole, rfl, awaits, isRule, after_⟩ := silences_iff.1 h
    obtain ⟨between, rfl, rfl⟩ := exists_of_append_digitless isRule whole digitless
    exact silences_iff.2 ⟨front, rule, between, rules₀, rfl, rfl, awaits, isRule, after_.of_append⟩
  · rintro ⟨before, list, after, rfl, isList, after_⟩
    exact ⟨before, list, after ++ ends, List.append_assoc .., isList, after_.append hends⟩

/-- The lists of a line at whose end a rule was added: those that were there, and the one that the line
ended in, with the rule. -/
theorem silences_added_iff {kind : Option NoqaList} (isRule : IsRule rule) (hends : EndsWord ends)
    (digitless : ∀ c ∈ ends, isDigit c = false) :
    Silences (content ++ (ruleLead kind ++ rule) ++ ends) rules ↔
      Silences content rules ∨ ∃ rules₀, rules = rules₀ ++ [rule] ∧ EndsFor content kind rules₀ := by
  have front : BeginsWord (content ++ ruleLead kind) := by
    intro c hc
    obtain ⟨init, hlead⟩ := exists_ruleLead_eq kind
    rw [hlead, ← List.append_assoc, List.getLast?_concat] at hc
    exact Option.some.inj hc ▸ rfl
  have word {rule : List Char} (isRule : IsRule rule) : IsWord rule := fun _ hc => isRule.isWordChar hc
  rw [silences_append_iff hends digitless, ← List.append_assoc]
  constructor
  · intro h
    obtain ⟨front', rule', after, rules₀, whole, rfl, awaits, isRule', after_⟩ := silences_iff.1 h
    rw [← List.append_nil (content ++ ruleLead kind ++ rule)] at whole
    obtain ⟨as, place, rfl⟩ | ⟨rfl, rfl, rfl⟩ | ⟨as, nil⟩ := words_cases whole.symm
      (fun c hc => awaits.getLast? hc) front (word isRule') (word isRule) after_ nofun
    · obtain ⟨between, rfl, rfl⟩ :=
        exists_of_append_digitless isRule' place fun _ hc =>
          eq_false_of_mem_ruleLead (by decide) hc
      rw [List.append_assoc, List.append_assoc] at after_
      exact .inl (silences_iff.2
        ⟨front', rule', between, rules₀, rfl, rfl, awaits, isRule', after_.of_append⟩)
    · exact .inr ⟨rules₀, rfl, (awaitsRuleIn_lead_iff kind).1 awaits⟩
    · obtain ⟨init, digit, rfl, -⟩ := isRule'.exists_digit
      simp at nil
  · rintro (⟨before, list, after, rfl, isList, after_⟩ | ⟨rules₀, rfl, hfor⟩)
    · rw [List.append_assoc, List.append_assoc]
      exact ⟨before, list, after ++ (ruleLead kind ++ rule), rfl, isList,
        after_.append (endsWord_ruleLead_append kind _)⟩
    · refine silences_iff.2 ⟨_, rule, [], rules₀, (List.append_nil _).symm, rfl, ?_, isRule, nofun⟩
      exact (awaitsRuleIn_lead_iff kind).2 hfor

end SqlLint
