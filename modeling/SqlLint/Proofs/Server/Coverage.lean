import SqlLint.Proofs.Document.Store
import SqlLint.Proofs.Server.Session

/-!
# No change goes unlinted

`Outlook` is what matters of a session: the settings, the open documents, and the latest lint of
each.  Workers leave it as it is and each deed has its own effect on it (`Deed.act`), so that an
errand has the effect of its deeds however workers go on meanwhile.  When documents are linted on
typing the latest lint of every open document that is to be linted is one of its present text
(`Outlook.IsCovered`): each errand sees to that again, and so it holds whenever no errand is at hand
(`exists_lane_of_open`).
-/

namespace SqlLint

/-- The settings, the open documents, and the latest lint of each URL. -/
structure Outlook where
  settings : Settings
  documents : Documents
  latest : Url → Option LintJob

namespace Outlook

variable {o : Outlook} {uri other : Url} {d : Document}

/-- The outlook with another latest lint of a URL. -/
def withLatest (o : Outlook) (uri : Url) (job : Option LintJob) : Outlook :=
  { o with latest := fun other => if other = uri then job else o.latest other }

/-- A lint of a document is asked for. -/
def trigger (o : Outlook) (uri : Url) (source : LintSource) (force : Bool) : Outlook :=
  match o.documents.get? uri with
  | none => o
  | some d =>
    if ! o.settings.lints d.language then o
    else if o.settings.linter.run = .off ∧ ! force then o
    else o.withLatest uri (some ⟨d, source, true⟩)

/-- The latest lint of a document is one of its present text. -/
def Covers (o : Outlook) (uri : Url) : Prop :=
  ∀ d, o.documents.get? uri = some d → o.settings.lints d.language = true →
    ∃ job, o.latest uri = some job ∧ job.document.text = d.text

/-- All open documents are covered, if documents are linted on typing. -/
def IsCovered (o : Outlook) : Prop := o.settings.linter.run = .onType → ∀ uri, o.Covers uri

end Outlook

/-- The effect of a deed on the outlook. -/
def Deed.act (o : Outlook) : Deed → Outlook
  | .store change => { o with documents := change o.documents }
  | .configure config => { o with settings := config.settings }
  | .trigger uri source force => o.trigger uri source force
  | .drop uri => o.withLatest uri none
  | .reset => { o with latest := fun _ => none }
  | .refresh | .retire _ | .clear _ | .lintProject | .send _ => o

namespace Outlook

variable {o : Outlook} {uri other : Url} {d : Document}

@[simp] theorem settings_trigger (o : Outlook) (uri : Url) (source : LintSource) (force : Bool) :
    (o.trigger uri source force).settings = o.settings := by
  unfold trigger
  split
  · rfl
  · split
    · rfl
    · split <;> rfl

@[simp] theorem documents_trigger (o : Outlook) (uri : Url) (source : LintSource) (force : Bool) :
    (o.trigger uri source force).documents = o.documents := by
  unfold trigger
  split
  · rfl
  · split
    · rfl
    · split <;> rfl

/-- Asking for a lint on typing covers the document. -/
theorem covers_trigger (o : Outlook) (uri : Url) (source : LintSource)
    (run : o.settings.linter.run = .onType) : (o.trigger uri source false).Covers uri := by
  intro d hd lints
  rw [documents_trigger] at hd
  rw [settings_trigger] at lints
  refine ⟨⟨d, source, true⟩, ?_, rfl⟩
  simp [trigger, hd, lints, run, withLatest]

theorem latest_trigger_of_ne (o : Outlook) (source : LintSource) (force : Bool)
    (h : other ≠ uri) : (o.trigger uri source force).latest other = o.latest other := by
  unfold trigger
  split
  · rfl
  · split
    · rfl
    · split
      · rfl
      · simp [withLatest, h]

/-- It takes cover from no other document. -/
theorem Covers.trigger (covers : o.Covers other) (source : LintSource)
    (run : o.settings.linter.run = .onType) (uri : Url) :
    (o.trigger uri source false).Covers other := by
  by_cases h : other = uri
  · exact h ▸ o.covers_trigger other source run
  · rw [Covers, settings_trigger, documents_trigger, o.latest_trigger_of_ne source false h]
    exact covers

/-! ## Errands -/

/-- A document that changes is covered again when a lint of it is asked for. -/
theorem IsCovered.store_trigger (covered : o.IsCovered) (source : LintSource)
    (change : Documents → Documents)
    (same : ∀ other, other ≠ uri →
      (change o.documents).get? other = o.documents.get? other) :
    (Outlook.trigger { o with documents := change o.documents } uri source false).IsCovered := by
  intro run other
  rw [settings_trigger] at run
  by_cases h : other = uri
  · exact h ▸ covers_trigger _ other source run
  · refine Covers.trigger ?_ source run uri
    intro d hd lints
    rw [same other h] at hd
    exact covered run other d hd lints

/-- A document that is closed leaves the others covered. -/
theorem IsCovered.close (covered : o.IsCovered) (uri : Url) :
    (Outlook.withLatest { o with documents := o.documents.close uri } uri none).IsCovered := by
  intro run other d hd lints
  have hd : (o.documents.close uri).get? other = some d := hd
  rw [Documents.get?_close] at hd
  split at hd
  · cases hd
  · next h =>
    obtain ⟨job, hjob, htext⟩ := covered run other d hd lints
    exact ⟨job, by simpa [withLatest, h] using hjob, htext⟩

/-- Linting documents anew covers them, and takes cover from none. -/
theorem covers_relint (ds : Documents) (run : o.settings.linter.run = .onType)
    (h : o.Covers uri ∨ ∃ d ∈ ds, d.uri = uri) :
    ((Errand.relint ds).foldl Deed.act o).Covers uri := by
  induction ds generalizing o with
  | nil =>
    obtain h | ⟨d, hd, -⟩ := h
    · exact h
    · cases hd
  | cons d ds ih =>
    have run' : (o.trigger d.uri (Linter.sourceOf d) false).settings.linter.run = .onType := by
      rw [settings_trigger, run]
    refine ih run' ?_
    obtain h | ⟨d', hd', rfl⟩ := h
    · exact .inl (h.trigger _ run _)
    · obtain rfl | hd' := List.mem_cons.1 hd'
      · exact .inl (o.covers_trigger d'.uri _ run)
      · exact .inr ⟨d', hd', rfl⟩

@[simp] theorem settings_relint (ds : Documents) (o : Outlook) :
    ((Errand.relint ds).foldl Deed.act o).settings = o.settings := by
  induction ds generalizing o with
  | nil => rfl
  | cons d ds ih => exact (ih _).trans (o.settings_trigger d.uri _ false)

@[simp] theorem documents_relint (ds : Documents) (o : Outlook) :
    ((Errand.relint ds).foldl Deed.act o).documents = o.documents := by
  induction ds generalizing o with
  | nil => rfl
  | cons d ds ih => exact (ih _).trans (o.documents_trigger d.uri _ false)

/-- Linting all open documents anew covers them all. -/
theorem isCovered_relint (o : Outlook) :
    ((Errand.relint o.documents).foldl Deed.act o).IsCovered := by
  intro run uri d hd
  rw [settings_relint] at run
  have hd' := hd
  rw [documents_relint] at hd'
  exact covers_relint o.documents run
    (.inr ⟨d, Documents.mem_of_get? hd', Documents.uri_of_get? hd'⟩) d hd

/-- Every errand leaves open documents covered. -/
theorem IsCovered.deeds (covered : o.IsCovered) (s : Service) (e : Errand)
    (settings : o.settings = s.settings) (documents : o.documents = s.workspace.documents) :
    ((e.deeds s).foldl Deed.act o).IsCovered := by
  cases e with
  | opened d =>
    refine covered.store_trigger .file (·.open_ d) fun other h => ?_
    rw [Documents.get?_open_, if_neg h]
  | changed uri version changes =>
    rw [Errand.deeds]
    split
    · refine covered.store_trigger .buffer (·.change uri version changes) ?_
      intro other h
      rw [Documents.get?_change, if_neg h]
    · next notTyped =>
      intro run
      exact absurd (settings ▸ run) notTyped
  | saved uri text =>
    refine covered.store_trigger .file (·.save uri text) fun other h => ?_
    rw [Documents.get?_save, if_neg h]
  | closed uri => exact covered.close uri
  | configured value =>
    rw [Errand.deeds]
    split
    · exact covered
    · generalize s.configOf (s.settingsOf (some value)) = config
      have configured : (Deed.configure config ::
          if (s.workspace.configure config).1 then [.refresh] else []).foldl Deed.act o =
          { o with settings := config.settings } := by
        split <;> rfl
      rw [List.append_assoc, List.foldl_append, configured, List.cons_append, List.foldl_cons,
        List.foldl_append, ← documents]
      exact isCovered_relint ⟨config.settings, o.documents, fun _ => none⟩
  | excluded id rule =>
    rw [Errand.deeds]
    split
    · next settings _ =>
      rw [List.foldl_append, List.foldl_cons, ← documents]
      exact isCovered_relint { o with settings }
    · exact covered

end Outlook

/-! ## The outlook of a linter -/

namespace Linter

variable {l l' : Linter} {taken : List (Nat × LintJob)}

/-- The outlook of a linter, given the lints that were taken at each place. -/
def outlook (l : Linter) (taken : List (Nat × LintJob)) : Outlook where
  settings := l.settings
  documents := l.documents
  latest := l.latest? taken

theorem outlook_eq {taken' : List (Nat × LintJob)}
    (given : l'.workspace.given = l.workspace.given)
    (latest : l'.latest? taken' = l.latest? taken) : l'.outlook taken' = l.outlook taken := by
  have hconfig : l'.workspace.config = l.workspace.config := congrArg Prod.fst given
  have hdocuments : l'.workspace.documents = l.workspace.documents := congrArg Prod.snd given
  rw [outlook, outlook, latest, settings, settings, Workspace.settings, Workspace.settings,
    hconfig, documents, documents, hdocuments]

theorem outlook_enqueue (l : Linter) (d : Document) (source : LintSource) :
    (l.enqueue ⟨d, source, true⟩).outlook taken =
      (l.outlook taken).withLatest d.uri (some ⟨d, source, true⟩) := by
  have kept : (l.enqueue ⟨d, source, true⟩).workspace = l.workspace :=
    congrArg Bench.workspace (l.bench_enqueue _)
  rw [outlook, settings, documents, kept]
  exact congrArg (Outlook.mk l.settings l.documents)
    (funext fun uri => l.latest?_enqueue ⟨d, source, true⟩ uri)

/-- Asking for a lint has the same effect on the outlook. -/
theorem outlook_trigger (l : Linter) (uri : Url) (source : LintSource) (force : Bool) :
    (l.trigger uri source force).outlook taken = (l.outlook taken).trigger uri source force := by
  have documents : (l.outlook taken).documents = l.documents := rfl
  have settings : (l.outlook taken).settings = l.settings := rfl
  rw [trigger, Outlook.trigger, documents, settings]
  cases found : l.documents.get? uri with
  | none => rfl
  | some d =>
    dsimp only
    split
    · rfl
    · split
      · rfl
      · rw [← Documents.uri_of_get? found]
        exact l.outlook_enqueue d source

theorem outlook_drop (l : Linter) (uri : Url) :
    (l.drop uri).outlook taken = (l.outlook taken).withLatest uri none :=
  congrArg (Outlook.mk l.settings l.documents) (funext fun other => l.latest?_drop uri other)

theorem outlook_reset (l : Linter) :
    l.reset.outlook taken = { l.outlook taken with latest := fun _ => none } :=
  congrArg (Outlook.mk l.settings l.documents) (funext fun uri => l.latest?_reset uri)

theorem outlook_clear (l : Linter) (uri : Url) : (l.clear uri).outlook taken = l.outlook taken := by
  unfold clear
  split <;> rfl

theorem outlook_startProject (l : Linter) (root : String) (force : Bool) :
    ((l.startProject root force).getD l).outlook taken = l.outlook taken := by
  unfold startProject
  split <;> rfl

end Linter

namespace Session

variable {s s' : Session} {x : Incident} {h : List Incident} {uri : Url} {d : Document}

/-- The outlook of a session. -/
def outlook (s : Session) : Outlook := s.linter.outlook s.taken

/-- Workers leave the outlook as it is. -/
theorem outlook_of_labour {y : Labour} (hx : s.step? (.labour y) = some s') :
    s'.outlook = s.outlook := by
  obtain ⟨l, hl, rfl⟩ := Option.map_eq_some_iff.1 hx
  exact Linter.outlook_eq (Linter.given_of_labour? hl) (Linter.latest?_of_labour? hl)

/-- A deed has its own effect on the outlook. -/
theorem outlook_perform (s : Session) (deed : Deed) :
    (deed.perform s.service).linter.outlook s.taken = deed.act s.outlook := by
  cases deed with
  | store change => rfl
  | configure config => rfl
  | refresh => exact Linter.outlook_eq (Workspace.given_refreshVersion _) rfl
  | trigger uri source force => exact Linter.outlook_trigger _ uri source force
  | drop uri => exact Linter.outlook_drop _ uri
  | retire uri => rfl
  | clear uri => exact Linter.outlook_clear _ uri
  | reset => exact Linter.outlook_reset _
  | lintProject =>
    rw [Deed.perform, Service.lintProjectIfEnabled]
    split
    · cases s.service.root with
      | none => rfl
      | some root => exact Linter.outlook_startProject _ root false
    · rfl
  | send message => rfl

/-- When the deeds that are left to do are done, open documents are covered. -/
def WillCover (s : Session) : Prop := (s.agenda.foldl Deed.act s.outlook).IsCovered

/-- Whatever happens in a session, open documents will be covered. -/
theorem WillCover.step? (covered : s.WillCover) (hx : s.step? x = some s') : s'.WillCover := by
  cases x with
  | errand e =>
    obtain ⟨idle, rfl⟩ := step?_errand_eq_some hx
    rw [WillCover, idle] at covered
    exact covered.deeds s.service e rfl rfl
  | proceed =>
    obtain ⟨deed, agenda, hagenda, rfl⟩ := step?_proceed_eq_some hx
    rw [WillCover, hagenda, List.foldl_cons] at covered
    rw [WillCover, outlook]
    dsimp only [linter]
    rwa [outlook_perform]
  | labour y =>
    have hagenda : s'.agenda = s.agenda := by
      obtain ⟨l, -, rfl⟩ := Option.map_eq_some_iff.1 hx
      rfl
    rw [WillCover, hagenda, outlook_of_labour hx]
    exact covered
  | surround machine =>
    obtain rfl := Option.some.inj hx
    exact covered

/-- Whenever no errand is at hand and documents are linted on typing, each open document that is to
be linted has one lane, and if that is idle the last lint that it took is one of the present text. -/
theorem exists_lane_of_open (closed : s.service.workspace.documents = [])
    (quiet : s.linter.pending = 0) (idle : s.agenda = []) (hs : s.follow? h = some s')
    (done : s'.agenda = []) (run : s'.service.settings.linter.run = .onType)
    (hd : s'.service.workspace.documents.get? uri = some d)
    (lints : s'.service.settings.lints d.language = true) :
    ∃ i lane, s'.linter.lanes[i]? = some lane ∧ lane.serves uri = true ∧
      (∀ j lane', s'.linter.lanes[j]? = some lane' → lane'.serves uri = true → j = i) ∧
      (lane.delayer.isIdle = true →
        ∃ job, s'.taken.lookup i = some job ∧ job.document.text = d.text) := by
  have covered : s.WillCover := by
    intro _ uri d hd
    rw [idle] at hd
    have hd : s.service.workspace.documents.get? uri = some d := hd
    rw [closed] at hd
    cases hd
  have covered' := follow?_preserves (fun _ _ _ covered hx => covered.step? hx) covered hs
  have single : s'.linter.IsSingle := by
    obtain ⟨g, hg⟩ := exists_follow?_of_follow? hs
    exact Linter.follow?_preserves (fun _ _ _ single hx => single.move? hx)
      (Linter.isSingle_of_pending_eq_zero quiet) hg
  rw [WillCover, done] at covered'
  obtain ⟨job, latest, htext⟩ := covered' run uri d hd lints
  obtain ⟨i, seat, latest⟩ := Option.bind_eq_some_iff.1 latest
  obtain ⟨lane, hlane, serves⟩ := Linter.exists_lane_of_seat? seat
  refine ⟨i, lane, hlane, serves, ?_, fun idle => ⟨job, ?_, htext⟩⟩
  · exact fun j lane' hlane' serves' => single.index_eq hlane' serves' hlane serves
  · have nothing : s'.linter.waiting? i = none := by
      rw [Linter.waiting?, hlane]
      simpa using (Bool.and_eq_true_iff.1 idle).1
    rwa [nothing, Option.none_or] at latest

/-- A document is opened and changed, with steps of its worker between and after. -/
def openedAndChanged (d : Document) : List Incident :=
  [.errand (.opened d), .proceed, .proceed, .labour (.take 0),
    .errand (.changed d.uri 2 [⟨none, "SELECT 2"⟩]), .proceed, .labour (.work 0), .proceed] ++
  List.replicate 2 (.labour (.work 0)) ++ [.labour (.take 0)] ++
  List.replicate 3 (.labour (.work 0))

/-- In the end the lane is idle, and the last lint that it took is one of the changed text. -/
theorem exists_lane_of_open_plain :
    ∃ s' i lane job, (⟨{ linter := .eager {} [] }, [], []⟩ : Session).follow?
        (openedAndChanged .plain) = some s' ∧
      s'.linter.lanes[i]? = some lane ∧ lane.serves Document.plain.uri = true ∧
      lane.delayer.isIdle = true ∧ s'.taken.lookup i = some job ∧
      job.document.text = "SELECT 2" := by
  have facts : ((⟨{ linter := .eager {} [] }, [], []⟩ : Session).follow?
      (openedAndChanged .plain)).map (fun s => (s.agenda.isEmpty, s.service.settings.linter.run,
        s.service.workspace.documents, s.service.settings.lints "sql", s.linter.isIdle)) =
      some (true, .onType, [{ Document.plain with version := 2, text := "SELECT 2", dirty := true }],
        true, true) := by
    decide +kernel
  obtain ⟨s', hs, facts⟩ := Option.map_eq_some_iff.1 facts
  simp only [Prod.mk.injEq] at facts
  obtain ⟨done, run, documents, lints, allIdle⟩ := facts
  have hd : s'.service.workspace.documents.get? Document.plain.uri =
      some { Document.plain with version := 2, text := "SELECT 2", dirty := true } := by
    rw [documents]
    rfl
  obtain ⟨i, lane, hlane, serves, -, last⟩ := exists_lane_of_open rfl rfl rfl hs
    (List.isEmpty_iff.1 done) run hd lints
  have idle : lane.delayer.isIdle = true := by
    have := List.all_eq_true.1 allIdle lane (List.mem_of_getElem? hlane)
    rwa [Lane.isClosed_of_serves serves, Bool.false_or] at this
  obtain ⟨job, taken, text⟩ := last idle
  exact ⟨s', i, lane, job, hs, hlane, serves, idle, taken, text⟩

end Session

end SqlLint
