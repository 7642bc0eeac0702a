import SqlLint.Proofs.Action.RuleLists
import SqlLint.Proofs.Document.LineEnds
import SqlLint.Proofs.Text.AnyLines

/-!
# Silencing a rule on a line

The quick fix for one rule puts it at the end of the line.  No other line changes, and a line without a
comment that silences rules gets one.  A line with such a comment has the rule in a list of it if the
list is what the line ends in; what the finder takes for the end of the list need not be that, and then
the rule stands where nobody looks for it (`silencesToo_iff`).
-/

namespace SqlLint

open Text

variable {d : Document} {n : Nat} {line : List Char} {rules : List (List Char)} {rule : String}

/-- A comment of the second line silences the rule, and also the rules of each comment that the first
line had, in their old order. -/
def SilencesToo (line line' rule : List Char) : Prop :=
  ∃ rules, Silences line' rules ∧ rule ∈ rules ∧ ∀ old, Silences line old → old.Sublist rules

theorem Silences.exists_digit (h : Silences line rules) : ∃ c ∈ line, isDigit c = true := by
  obtain ⟨before, list, after, rfl, isList, -⟩ := h
  obtain ⟨init, c, rfl, digit⟩ := isList.exists_digit
  exact ⟨c, by simp, digit⟩

theorem not_silences_of_find?_eq_none (h : NoqaComment.find? line = none) : ¬ Silences line rules := by
  rintro ⟨before, list, after, rfl, -⟩
  have absent := Option.map_eq_none_iff.1 h
  have found : NoqaComment.mark <:+: before ++ ruleMark ++ list ++ after :=
    ⟨before, [':'] ++ list ++ after, by simp only [ruleMark, List.append_assoc]⟩
  rw [← isSome_cutAt_iff, absent] at found
  cases found

theorem isTerminator_of_mem_added {kind : Option NoqaList} {word : List Char} (isRule : IsRule word)
    {c : Char} (hc : c ∈ ruleLead kind ++ word) : isTerminator c = false := by
  obtain hc | hc := List.mem_append.1 hc
  · exact eq_false_of_mem_ruleLead (by decide) hc
  · have word := isRule.isWordChar hc
    by_contra ending
    rw [isWordChar_of_isBlank (isBlank_of_isTerminator (by simpa using ending))] at word
    cases word

/-- Where a rule was added to a line, a comment silences it with those before it if the line ended so
that it could be added, or if that was so without it. -/
theorem silencesToo_added_iff {content ends word : List Char} (isRule : IsRule word)
    (hends : ∀ c ∈ ends, c = '\r') (kind : Option NoqaList) :
    SilencesToo (content ++ ends) (content ++ (ruleLead kind ++ word) ++ ends) word ↔
      (∃ rules, EndsFor content kind rules ∧
        ∀ old, Silences (content ++ ends) old → old.Sublist (rules ++ [word])) ∨
      SilencesToo (content ++ ends) (content ++ ends) word := by
  have endsWord : EndsWord ends := fun c hc => hends c (List.mem_of_head? hc) ▸ rfl
  have digitless : ∀ c ∈ ends, isDigit c = false := fun c hc => hends c hc ▸ rfl
  simp only [SilencesToo, silences_added_iff isRule endsWord digitless,
    silences_append_iff endsWord digitless]
  constructor
  · rintro ⟨rules, before | ⟨rules, rfl, ends⟩, mem, all⟩
    · exact .inr ⟨rules, before, mem, all⟩
    · exact .inl ⟨rules, ends, all⟩
  · rintro (⟨rules, ends, all⟩ | ⟨rules, before, mem, all⟩)
    · exact ⟨rules ++ [word], .inr ⟨rules, rfl, ends⟩, by simp, all⟩
    · exact ⟨rules, .inl before, mem, all⟩

/-- The same where the rule was added in the way in which the finder looks at the line. -/
theorem silencesToo_found_iff {content ends word : List Char} (isRule : IsRule word)
    (hends : ∀ c ∈ ends, c = '\r') (split : line = content ++ ends) :
    SilencesToo line
        (content ++ (ruleLead ((NoqaComment.find? line).map (·.list)) ++ word) ++ ends) word ↔
      NoqaComment.find? line = none ∨
      (∃ comment rules, NoqaComment.find? line = some comment ∧
        EndsFor content (some comment.list) rules ∧
        ∀ old, Silences line old → old.Sublist (rules ++ [word])) ∨
      SilencesToo line line word := by
  generalize hfound : NoqaComment.find? line = found
  rw [split, silencesToo_added_iff isRule hends, ← split, ← or_assoc]
  refine or_congr_left ?_
  cases found with
  | none =>
    exact iff_of_true ⟨[], rfl, fun old h => absurd h (not_silences_of_find?_eq_none hfound)⟩ (.inl rfl)
  | some comment =>
    constructor
    · rintro ⟨rules, ends, all⟩
      exact .inr ⟨comment, rules, rfl, ends, all⟩
    · rintro (bare | ⟨_, rules, ⟨⟩, ends, all⟩)
      · cases bare
      · exact ⟨rules, ends, all⟩

/-- The quick fix for a rule puts it at the end of its line, before the carriage returns there, and
leaves the other lines alone. -/
theorem exists_noqaEdit? (hline : d.line? n = some line) (isRule : IsRule rule.toList) :
    ∃ e ends, noqaEdit? d n rule false = some e ∧ line = lineContent line ++ ends ∧
      (∀ c ∈ ends, c = '\r') ∧
      (d.edit e).line? n = some (lineContent line ++
        (ruleLead ((NoqaComment.find? line).map (·.list)) ++ rule.toList) ++ ends) ∧
      ∀ m, m ≠ n → (pieces isLineFeed (d.edit e).chars)[m]? = (pieces isLineFeed d.chars)[m]? := by
  have hline' := hline
  rw [Document.line?_eq] at hline'
  obtain ⟨l, piece, rfl⟩ := Option.map_eq_some_iff.1 hline'
  obtain ⟨ends, whole, returns, strip⟩ := exists_returns piece
  have hadded := toList_noqaAddition (NoqaComment.find? (stripReturn l)) rule
  have inner : ∀ c ∈ (noqaAddition (NoqaComment.find? (stripReturn l)) rule).toList,
      isTerminator c = false := fun c hc => isTerminator_of_mem_added isRule (hadded ▸ hc)
  have edited := Document.pieces_edit_lineEnd piece whole
    fun c hc => beq_false_of_ne (not_isTerminator (inner c hc)).1
  have returns' : ∀ c ∈ ends.dropLast, c = '\r' := fun c hc => returns c (List.mem_of_mem_dropLast hc)
  have content : lineContent (stripReturn l) = lineContent l := by
    rw [strip, lineContent_append fun c hc => returns' c hc ▸ rfl]
    exact List.rdropWhile_idempotent _ _
  refine ⟨⟨.inLine n (units16 (stripReturn l)) (units16 (stripReturn l)),
    noqaAddition (NoqaComment.find? (stripReturn l)) rule⟩, ends.dropLast,
    ?_, content.symm ▸ strip, returns', ?_, ?_⟩
  · simp only [noqaEdit?, hline, Option.bind_eq_bind, Option.bind_some]
    rfl
  · rw [Document.line?_eq, edited, List.getElem?_set_self (List.getElem?_eq_some_iff.1 piece).1,
      Option.map_some, hadded, content]
    refine congrArg some (stripReturn_append ?_ returns)
    intro last
    obtain ⟨init, c, hc, digit⟩ := isRule.exists_digit
    rw [hc, ← List.append_assoc, ← List.append_assoc, List.getLast?_concat] at last
    cases Option.some.inj last
    cases digit
  · intro m other
    rw [edited, List.getElem?_set_ne (Ne.symm other)]

/-- The quick fix for a rule on a line changes that line only.  A comment of the line silences the rule
then, and all rules that its comment silenced before, exactly if the line had no such comment, or ended
in the way in which the finder says that the list of its first comment ends, or did so already. -/
theorem silencesToo_iff (hline : d.line? n = some line) (isRule : IsRule rule.toList) :
    ∃ e line', noqaEdit? d n rule false = some e ∧ (d.edit e).line? n = some line' ∧
      (∀ m, m ≠ n →
        (pieces isLineFeed (d.edit e).chars)[m]? = (pieces isLineFeed d.chars)[m]?) ∧
      (SilencesToo line line' rule.toList ↔
        NoqaComment.find? line = none ∨
        (∃ comment rules, NoqaComment.find? line = some comment ∧
          EndsFor (lineContent line) (some comment.list) rules ∧
          ∀ old, Silences line old → old.Sublist (rules ++ [rule.toList])) ∨
        SilencesToo line line rule.toList) := by
  obtain ⟨e, ends, hedit, split, returns, hline', others⟩ := exists_noqaEdit? hline isRule
  exact ⟨e, _, hedit, hline', others, silencesToo_found_iff isRule returns split⟩

/-- A document with one line before the last one. -/
def lineDocument (line : String) : Document := ⟨default, "sql", 1, line ++ "\r\nfrom b", false⟩

theorem isRule_append (letters digits : List Char) (h : letters ≠ [] ∧ digits ≠ [] ∧
    letters.all Char.isAlpha = true ∧ digits.all isDigit = true) : IsRule (letters ++ digits) :=
  ⟨letters, digits, rfl, h.1, h.2.1, List.all_eq_true.1 h.2.2.1, List.all_eq_true.1 h.2.2.2⟩

theorem silencesToo_iff_blankBehind :
    noqaEdit? (lineDocument "select a -- noqa: LT01 ") 0 "CP02" false =
      some ⟨.inLine 0 23 23, ", CP02"⟩ ∧
    ((lineDocument "select a -- noqa: LT01 ").edit ⟨.inLine 0 23 23, ", CP02"⟩).text =
      "select a -- noqa: LT01 , CP02\r\nfrom b" ∧
    SilencesToo "select a -- noqa: LT01 ".toList "select a -- noqa: LT01 , CP02".toList
      "CP02".toList := by
  have edit : noqaEdit? (lineDocument "select a -- noqa: LT01 ") 0 "CP02" false =
      some ⟨.inLine 0 23 23, ", CP02"⟩ := by decide +kernel
  have isRule : IsRule "CP02".toList := isRule_append ['C', 'P'] ['0', '2'] (by decide)
  have isRule' : IsRule "LT01".toList := isRule_append ['L', 'T'] ['0', '1'] (by decide)
  obtain ⟨e, line', hedit, hline', -, silences⟩ :=
    @silencesToo_iff (lineDocument "select a -- noqa: LT01 ") 0 "select a -- noqa: LT01 ".toList "CP02"
      (by decide +kernel) isRule
  obtain rfl := Option.some.inj (hedit.symm.trans edit)
  have hline : ((lineDocument "select a -- noqa: LT01 ").edit ⟨.inLine 0 23 23, ", CP02"⟩).line? 0 =
      some "select a -- noqa: LT01 , CP02".toList := by decide +kernel
  obtain rfl := Option.some.inj (hline'.symm.trans hline)
  refine ⟨edit, by decide +kernel, silences.2 (.inr (.inl ⟨⟨"select a".toList, .closed⟩,
    ["LT01".toList], by decide +kernel, ?_, ?_⟩))⟩
  · exact ⟨"select a ".toList, " LT01".toList, [' '], by decide +kernel,
      .last (.start (show isBlankText [' '] = true from rfl)) isRule', rfl⟩
  · intro old hold
    have added : Silences ("select a -- noqa".toList ++ (ruleLead (some .none) ++ "LT01".toList) ++ [' '])
        old := hold
    obtain before | ⟨rules₀, rfl, rfl, -⟩ :=
      (silences_added_iff isRule' (by rintro _ ⟨⟩; rfl) (by rintro _ (_ | ⟨_, ⟨⟩⟩); rfl)).1 added
    · obtain ⟨c, mem, digit⟩ := before.exists_digit
      have digitless : "select a -- noqa".toList.any isDigit = false := by decide +kernel
      exact absurd digit (List.any_eq_false.1 digitless c mem)
    · exact List.sublist_append_left ..

theorem not_silencesToo_emptyList :
    (lineDocument "select a -- noqa:").line? 0 = some "select a -- noqa:".toList ∧
    IsRule "CP01".toList ∧
    noqaEdit? (lineDocument "select a -- noqa:") 0 "CP01" false = some ⟨.inLine 0 17 17, ": CP01"⟩ ∧
    ((lineDocument "select a -- noqa:").edit ⟨.inLine 0 17 17, ": CP01"⟩).line? 0 =
      some "select a -- noqa:: CP01".toList ∧
    ¬ SilencesToo "select a -- noqa:".toList "select a -- noqa:: CP01".toList "CP01".toList := by
  have isRule : IsRule "CP01".toList := isRule_append ['C', 'P'] ['0', '1'] (by decide)
  refine ⟨by decide +kernel, isRule, by decide +kernel, by decide +kernel, ?_⟩
  rintro ⟨rules, silences, mem, -⟩
  have added : Silences ("select a -- noqa:".toList ++ (ruleLead (some .none) ++ "CP01".toList) ++ [])
      rules := silences
  obtain before | ⟨rules₀, -, -, bare⟩ := (silences_added_iff isRule (by rintro _ ⟨⟩) (by simp)).1 added
  · obtain ⟨c, mem, digit⟩ := before.exists_digit
    have digitless : "select a -- noqa:".toList.any isDigit = false := by decide +kernel
    exact absurd digit (List.any_eq_false.1 digitless c mem)
  · obtain ⟨before, bare⟩ := bare
    have last := congrArg List.getLast? bare
    rw [List.getLast?_append_of_ne_nil _ (by decide)] at last
    exact absurd last (by decide +kernel)

end SqlLint
