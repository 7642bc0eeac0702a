import Mathlib.Data.List.Induction
import SqlLint.Proofs.Document.Places
import SqlLint.Proofs.Document.Store

/-!
# Documents in step with the editor

An editor changes its text and tells the changes; the open documents are to hold the same text.
`Editor.after?` is what a change does to the text of an editor, which sees a line end at a lone
carriage return too.  The two texts stay the same as long as no carriage return stands alone before more
text, and from such a text on the next change can part them (`text_eq_iff`); they never part if no
text that comes in has a lone carriage return (`text_eq_of_noLoneReturn`).
-/

namespace SqlLint

open Text

variable {text text' : String} {c : Change} {cs : List Change}

namespace Editor

/-- The text of an editor after a change, none if the change is of no range of the text. -/
def after? (text : String) (c : Change) : Option String :=
  match c.range with
  | none => some c.text
  | some r => do
    let start ← place? text.toList r.start.line r.start.character
    let stop ← place? text.toList r.stop.line r.stop.character
    if start ≤ stop then
      some (String.ofList (text.toList.take start ++ c.text.toList ++ text.toList.drop stop))
    else none

theorem after?_range {r : Range} (hr : c.range = some r) (h : after? text c = some text') :
    ∃ start stop, place? text.toList r.start.line r.start.character = some start ∧
      place? text.toList r.stop.line r.stop.character = some stop ∧ start ≤ stop ∧
      text' = String.ofList (text.toList.take start ++ c.text.toList ++ text.toList.drop stop) := by
  simp only [after?, hr, Option.bind_eq_bind, Option.bind_eq_some_iff] at h
  obtain ⟨start, hstart, stop, hstop, h⟩ := h
  split at h
  · next le => exact ⟨start, stop, hstart, hstop, le, (Option.some.inj h).symm⟩
  · cases h

end Editor

open Editor

/-! ## One change -/

theorem changed_eq_of_after? (paired : Paired text.toList) (h : after? text c = some text') :
    Document.changed text c = text' := by
  cases hr : c.range with
  | none =>
    rw [Document.changed, hr]
    rw [after?, hr] at h
    exact Option.some.inj h
  | some r =>
    obtain ⟨start, stop, hstart, hstop, le, rfl⟩ := after?_range hr h
    have start_eq : offsetAt text.toList r.start = start := offsetAt_eq_of_place? paired hstart
    have stop_eq : offsetAt text.toList r.stop = stop := offsetAt_eq_of_place? paired hstop
    simp only [Document.changed, hr, replace, span, start_eq, stop_eq, Nat.max_eq_left le]

/-- A line feed put behind a lone carriage return is not found in a text that has it elsewhere. -/
theorem insert_ne {xs before after : List Char} {d : Char} {o : Nat}
    (split : xs = before ++ '\r' :: d :: after) (hd : d ≠ '\n') (apart : o ≠ before.length + 1) :
    xs.take o ++ '\n' :: xs.drop o ≠
      xs.take (before.length + 1) ++ '\n' :: xs.drop (before.length + 1) := by
  intro h
  have long : before.length + 1 < xs.length := by simp [split]
  have feed : (xs.take (before.length + 1) ++
      '\n' :: xs.drop (before.length + 1))[before.length + 1]? = some '\n' := by
    rw [List.getElem?_append_right (List.length_take_le _ _), List.length_take_of_le long.le,
      Nat.sub_self]
    rfl
  rw [← h] at feed
  by_cases lower : o ≤ before.length
  · -- What stands there is the carriage return itself.
    rw [List.getElem?_append_right (by simp; omega), List.length_take_of_le (by omega),
      Nat.sub_add_comm lower, List.getElem?_cons_succ, List.getElem?_drop,
      Nat.add_sub_cancel' lower] at feed
    simp [split] at feed
  · rw [List.getElem?_append_left (by simp; omega), List.getElem?_take_of_lt (by omega)] at feed
    exact hd (by simpa [split] using feed)

/-- A line feed put at the beginning of the line after a lone carriage return goes elsewhere. -/
theorem exists_changed_ne (h : ¬ Paired text.toList) :
    ∃ c text', after? text c = some text' ∧ Document.changed text c ≠ text' := by
  obtain ⟨before, d, after, line, split, hd, place, apart⟩ := exists_place?_ne h
  let here : Position := ⟨line + 1, 0⟩
  refine ⟨⟨some ⟨here, here⟩, "\n"⟩, String.ofList (text.toList.take (before.length + 1) ++
    '\n' :: text.toList.drop (before.length + 1)), ?_, ?_⟩
  · simp [after?, here, place]
  · have ne := insert_ne split hd apart
    intro same
    have same := congrArg String.toList same
    refine ne ?_
    simpa [Document.changed, replace, span, here] using same

/-! ## Many changes -/

namespace Documents

/-- The documents after an editor told changes of one, each time with a version. -/
def told (ds : Documents) (uri : Url) (notes : List (Int × List Change)) : Documents :=
  notes.foldl (fun ds note => ds.change uri note.1 note.2) ds

end Documents

variable {ds : Documents} {uri : Url} {d : Document} {notes : List (Int × List Change)}

theorem text_edited (version : Int) (cs : List Change) (d : Document) :
    (Documents.edited version cs d).text = cs.foldl Document.changed d.text := by
  have each (d : Document) : (cs.foldl Document.change d).text =
      cs.foldl Document.changed d.text := by
    induction cs generalizing d with
    | nil => rfl
    | cons c cs ih => exact ih _
  exact each d

/-- It does not matter how the changes are parcelled out. -/
theorem text_told (open_ : ds.get? uri = some d) (notes : List (Int × List Change)) :
    ((ds.told uri notes).get? uri).map (·.text) =
      some ((notes.flatMap (·.2)).foldl Document.changed d.text) := by
  induction notes generalizing ds d with
  | nil => rw [Documents.told, List.foldl_nil, open_]; rfl
  | cons note notes ih =>
    have changed : (ds.change uri note.1 note.2).get? uri =
        some (Documents.edited note.1 note.2 d) := by
      rw [Documents.get?_change, if_pos rfl, open_, Option.map_some]
    have rest := ih changed
    rw [text_edited] at rest
    rw [List.flatMap_cons, List.foldl_append, ← rest]
    rfl

/-- No text that the editor has on the way has a carriage return alone before more text. -/
def Editor.StaysPaired (text : String) (cs : List Change) : Prop :=
  ∀ before, before <+: cs → ∀ text', before.foldlM after? text = some text' → Paired text'.toList

theorem foldlM_concat {cs : List Change} {c : Change} :
    (cs ++ [c]).foldlM after? text = some text' ↔
      ∃ mid, cs.foldlM after? text = some mid ∧ after? mid c = some text' := by
  rw [List.foldlM_append, Option.bind_eq_bind, Option.bind_eq_some_iff]
  simp

theorem foldl_changed_of_staysPaired (paired : StaysPaired text cs)
    (h : cs.foldlM after? text = some text') : cs.foldl Document.changed text = text' := by
  induction cs using List.reverseRecOn generalizing text' with
  | nil => exact Option.some.inj h
  | append_singleton cs c ih =>
    obtain ⟨mid, hmid, hlast⟩ := foldlM_concat.1 h
    have shorter : StaysPaired text cs := fun before h => paired before (h.trans (cs.prefix_append _))
    rw [List.foldl_append, ih shorter hmid]
    exact changed_eq_of_after? (shorter cs (List.prefix_refl cs) mid hmid) hlast

/-- A document has the text of the editor along some changes, whatever change comes next and however
the changes are told, if, and only if, no text of the editor on the way has a carriage return alone
before more text. -/
theorem text_told_iff (open_ : ds.get? uri = some d) (cs : List Change) :
    (∀ before, before <+: cs → ∀ next text', (before ++ [next]).foldlM after? d.text = some text' →
      ∀ notes : List (Int × List Change), notes.flatMap (·.2) = before ++ [next] →
        ((ds.told uri notes).get? uri).map (·.text) = some text') ↔
      StaysPaired d.text cs := by
  constructor
  · intro follows before hbefore text htext
    -- Told at once, the changes lead to what the editor has.
    have agree {before : List Change} (hbefore : before <+: cs) {next : Change} {text' : String}
        (h : (before ++ [next]).foldlM after? d.text = some text') :
        (before ++ [next]).foldl Document.changed d.text = text' := by
      have once := follows before hbefore next text' h [(0, before ++ [next])] (by simp)
      rw [text_told open_] at once
      simpa using once
    have reached : before.foldl Document.changed d.text = text := by
      cases before using List.reverseRecOn with
      | nil => exact Option.some.inj htext
      | append_singleton before last =>
        exact agree ((before.prefix_append _).trans hbefore) htext
    by_contra unpaired
    obtain ⟨next, text', hnext, ne⟩ := exists_changed_ne unpaired
    have := agree hbefore (foldlM_concat.2 ⟨text, htext, hnext⟩)
    rw [List.foldl_append, reached] at this
    exact ne this
  · intro paired before hbefore next text' h notes hnotes
    obtain ⟨mid, hmid, hnext⟩ := foldlM_concat.1 h
    have shorter : StaysPaired d.text before := fun b hb => paired b (hb.trans hbefore)
    rw [text_told open_, hnotes, List.foldl_append, foldl_changed_of_staysPaired shorter hmid]
    exact congrArg some (changed_eq_of_after? (paired before hbefore mid hmid) hnext)

/-- The file `/w/a.sql` opened with a text. -/
def openedAs (text : String) : Document :=
  ⟨⟨"file", some {}, "/w/a.sql", none, none⟩, "sql", 1, text, false⟩

theorem text_told_iff_returnAndFeed :
    Documents.get? [openedAs "a\r\nb"] (openedAs "a\r\nb").uri = some (openedAs "a\r\nb") ∧
    ∀ next text', [next].foldlM after? "a\r\nb" = some text' →
      ((Documents.told [openedAs "a\r\nb"] (openedAs "a\r\nb").uri [(2, [next])]).get?
        (openedAs "a\r\nb").uri).map (·.text) = some text' := by
  have open_ : Documents.get? [openedAs "a\r\nb"] (openedAs "a\r\nb").uri =
      some (openedAs "a\r\nb") := by decide
  have paired : StaysPaired "a\r\nb" [] := by
    intro before hbefore text htext
    rw [List.prefix_nil.1 hbefore] at htext
    obtain rfl : "a\r\nb" = text := Option.some.inj htext
    decide
  refine ⟨open_, fun next text' h => ?_⟩
  exact (text_told_iff open_ []).2 paired [] (List.prefix_refl []) next text' h _ (by simp)

theorem text_told_ne :
    [(⟨some ⟨⟨1, 0⟩, ⟨1, 0⟩⟩, "x"⟩ : Change)].foldlM after? "a\rb" = some "a\rxb" ∧
    ((Documents.told [openedAs "a\rb"] (openedAs "a\rb").uri
      [(2, [⟨some ⟨⟨1, 0⟩, ⟨1, 0⟩⟩, "x"⟩])]).get? (openedAs "a\rb").uri).map (·.text) =
        some "a\rbx" := by
  decide +kernel

/-! ## Texts without lone carriage returns -/

theorem noLoneReturn_of_after? (htext : NoLoneReturn text.toList) (hc : NoLoneReturn c.text.toList)
    (h : after? text c = some text') : NoLoneReturn text'.toList := by
  cases hr : c.range with
  | none =>
    rw [after?, hr] at h
    exact Option.some.inj h ▸ hc
  | some r =>
    obtain ⟨start, stop, hstart, hstop, -, rfl⟩ := after?_range hr h
    rw [String.toList_ofList]
    exact ((htext.take _ (getLast?_take_of_place? htext hstart)).append hc).append (htext.drop _)

/-- The two texts stay the same if no text that comes in has a lone carriage return. -/
theorem text_told_of_noLoneReturn (open_ : ds.get? uri = some d)
    (htext : NoLoneReturn d.text.toList)
    (hnotes : ∀ c ∈ notes.flatMap (·.2), NoLoneReturn c.text.toList)
    (h : (notes.flatMap (·.2)).foldlM after? d.text = some text') :
    ((ds.told uri notes).get? uri).map (·.text) = some text' := by
  rw [text_told open_]
  generalize notes.flatMap (·.2) = cs at hnotes h
  generalize d.text = text at htext h
  induction cs generalizing text with
  | nil => exact h
  | cons c cs ih =>
    obtain ⟨hc, hcs⟩ := List.forall_mem_cons.1 hnotes
    rw [List.foldlM_cons] at h
    obtain ⟨mid, hmid, h⟩ := Option.bind_eq_some_iff.1 h
    rw [List.foldl_cons, changed_eq_of_after? htext.paired hmid]
    exact ih hcs mid (noLoneReturn_of_after? htext hc hmid) h

end SqlLint
