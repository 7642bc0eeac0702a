import SqlLint.Proofs.Lint.Lanes
import SqlLint.Proofs.Workspace.Given
import SqlLint.Server.Service

/-!
# Errands

An `Errand` is a message by which the editor tells what it does to documents and settings.  The
service carries it out in `Deed`s, one after the other (`Errand.deeds`); between two of them workers
may go on.  With nothing between them they are what the service does when it receives the message
(`receive_eq_perform`).
-/

namespace SqlLint

/-- What an editor tells about documents and settings. -/
inductive Errand where
  | opened (document : Document)
  | changed (uri : Url) (version : Int) (changes : List Change)
  | saved (uri : Url) (text : Option String)
  | closed (uri : Url)
  | configured (value : Json)
  | excluded (id : Json) (rule : String)

/-- One part of what the service does about an errand. -/
inductive Deed where
  | store (change : Documents → Documents)
  | configure (config : Config)
  | refresh
  | trigger (uri : Url) (source : LintSource) (force : Bool)
  | drop (uri : Url)
  | retire (uri : Url)
  | clear (uri : Url)
  | reset
  | lintProject
  | send (message : Json)

/-- The errand that a notice is. -/
def Errand.ofNotice? : Notice → Option Errand
  | .opened d => some (.opened d)
  | .changed uri version changes => some (.changed uri version changes)
  | .saved uri text => some (.saved uri text)
  | .closed uri => some (.closed uri)
  | .configured value => some (.configured value)
  | .ready => none
  | .leave => none

/-- The errand that a command is: to exclude a rule. -/
def Errand.ofCommand? (id : Json) (name : String) (arguments : List Json) : Option Errand :=
  if name = QuickFix.excludeGlobally ∨ name = QuickFix.excludeInWorkspace then
    (arguments.head?.bind Json.str?).map (.excluded id)
  else none

/-- The errand that a message is. -/
def Errand.of? : Message → Option Errand
  | .other => none
  | .notice method parameters => (Notice.read? method parameters.draft).bind ofNotice?
  | .request id method parameters =>
    match Request.read method parameters.draft with
    | .ok (.command name arguments) => ofCommand? id name arguments
    | _ => none

namespace Deed

/-- The service after a deed. -/
def perform (s : Service) : Deed → Service
  | .store change => s.modify fun w => { w with documents := change w.documents }
  | .configure config => s.modify fun w => { w with config }
  | .refresh => s.modify Workspace.refreshVersion
  | .trigger uri source force => s.modifyLinter fun l => l.trigger uri source force
  | .drop uri => s.modifyLinter fun l => l.drop uri
  | .retire uri => s.modifyLinter fun l => l.retire uri
  | .clear uri => s.modifyLinter fun l => l.clear uri
  | .reset => s.modifyLinter fun l => l.reset
  | .lintProject => s.lintProjectIfEnabled
  | .send message => s.send message

end Deed

namespace Errand

/-- The deeds by which all open documents are linted anew. -/
def relint (documents : Documents) : List Deed :=
  documents.map fun d => .trigger d.uri (Linter.sourceOf d) false

/-- The deeds for an errand, as the service stands when it arrives. -/
def deeds (s : Service) : Errand → List Deed
  | .opened d => [.store (·.open_ d), .trigger d.uri .file false]
  | .changed uri version changes =>
    .store (·.change uri version changes) ::
      if s.settings.linter.run = .onType then [.trigger uri .buffer false] else []
  | .saved uri text => [.store (·.save uri text), .trigger uri .file false]
  | .closed uri => [.store (·.close uri), .drop uri, .retire uri, .clear uri]
  | .configured value =>
    if value.isNull then []
    else
      let config := s.configOf (s.settingsOf (some value))
      .configure config ::
        (if (s.workspace.configure config).1 then [.refresh] else []) ++
        .reset :: relint s.workspace.documents ++ [.lintProject]
  | .excluded id rule =>
    match s.settings.excludeRule? rule with
    | some settings =>
      .configure { s.workspace.config with settings } :: relint s.workspace.documents ++
        [.send (Message.answer id (.strings settings.excludeRules))]
    | none => [.send (Message.answer id (.strings s.settings.excludeRules))]

/-! ## Deeds and messages -/

/-- All open documents are linted anew. -/
theorem perform_relint (s : Service) :
    (relint s.workspace.documents).foldl Deed.perform s =
      s.modifyLinter fun l => l.lintOpen false := by
  have each (ds : Documents) (s : Service) : (relint ds).foldl Deed.perform s =
      s.modifyLinter fun l => ds.foldl (fun l d => l.trigger d.uri (Linter.sourceOf d) false) l := by
    induction ds generalizing s with
    | nil => rfl
    | cons d ds ih => exact ih _
  exact each s.workspace.documents s

theorem perform_changed (s : Service) (uri : Url) (version : Int) (changes : List Change) :
    ((Errand.changed uri version changes).deeds s).foldl Deed.perform s =
      s.documentEvent (·.change uri version changes) (·.changed uri) := by
  rw [deeds, Service.documentEvent, Service.modifyLinter]
  by_cases run : s.settings.linter.run = .onType
  · rw [if_pos run, Linter.changed, if_pos]
    · rfl
    · exact run
  · rw [if_neg run, Linter.changed, if_neg]
    · rfl
    · exact run

/-- The settings change, and then open documents are linted anew. -/
theorem perform_reconfigured (s : Service) (config : Config) (renamed : Bool) :
    ((Deed.configure config :: if renamed then [.refresh] else []) ++
        Deed.reset :: relint s.workspace.documents ++ [Deed.lintProject]).foldl
          Deed.perform s =
      ((s.withWorkspace (if renamed then { s.workspace with config }.refreshVersion
        else { s.workspace with config })).modifyLinter fun l =>
          l.reset.lintOpen false).lintProjectIfEnabled := by
  generalize hv : (if renamed then { s.workspace with config }.refreshVersion
    else { s.workspace with config }) = v
  have configured : (Deed.configure config :: if renamed then [.refresh] else []).foldl
      Deed.perform s = s.withWorkspace v := by
    rw [← hv]
    cases renamed <;> rfl
  have kept : s.workspace.documents = v.documents := by
    rw [← hv]
    cases renamed with
    | true =>
      rw [if_pos rfl]
      exact (Workspace.documents_refreshVersion { s.workspace with config }).symm
    | false => rfl
  rw [List.append_assoc, List.foldl_append, configured, List.cons_append, List.foldl_cons,
    List.foldl_append, kept]
  exact congrArg Service.lintProjectIfEnabled
    (perform_relint ((s.withWorkspace v).modifyLinter Linter.reset))

theorem perform_configured (s : Service) (value : Json) :
    ((Errand.configured value).deeds s).foldl Deed.perform s = s.configured value := by
  rw [deeds, Service.configured]
  split
  · rfl
  · exact perform_reconfigured s _ _

theorem perform_excluded (s : Service) (id : Json) (rule : String) :
    ((Errand.excluded id rule).deeds s).foldl Deed.perform s =
      (s.excludeCommand rule).2.send (Message.answer id (s.excludeCommand rule).1) := by
  rw [deeds, Service.excludeCommand]
  cases s.settings.excludeRule? rule with
  | none => rfl
  | some settings =>
    -- Linting anew leaves the settings as the rule left them, which is what is answered.
    have kept : (((s.modify fun w => w.withSettings settings).modifyLinter fun l =>
        l.lintOpen false).settings) = settings :=
      congrArg (fun b : Bench => b.workspace.settings) (Linter.bench_lintOpen _ false)
    dsimp only
    rw [List.foldl_append, List.foldl_cons, kept]
    exact congrArg (fun s : Service => s.send _)
      (perform_relint (s.modify fun w => w.withSettings settings))

/-- The deeds of an errand, with nothing between them, are what the service does when it receives
the message. -/
theorem receive_eq_perform {s : Service} {m : Message} {e : Errand} (h : Errand.of? m = some e) :
    s.receive m = (.goOn, (e.deeds s).foldl Deed.perform s) := by
  cases m with
  | other => cases h
  | notice method parameters =>
    obtain ⟨n, hn, he⟩ := Option.bind_eq_some_iff.1 h
    rw [Service.receive, hn]
    cases n with
    | ready => cases he
    | leave => cases he
    | opened d =>
      obtain rfl := Option.some.inj he
      rfl
    | changed uri version changes =>
      obtain rfl := Option.some.inj he
      exact congrArg (Prod.mk Flow.goOn) (perform_changed s uri version changes).symm
    | saved uri text =>
      obtain rfl := Option.some.inj he
      rfl
    | closed uri =>
      obtain rfl := Option.some.inj he
      rfl
    | configured value =>
      obtain rfl := Option.some.inj he
      exact congrArg (Prod.mk Flow.goOn) (perform_configured s value).symm
  | request id method parameters =>
    simp only [of?] at h
    split at h
    · next name arguments hread =>
      unfold ofCommand? at h
      split at h
      · next hname =>
        obtain ⟨rule, hrule, rfl⟩ := Option.map_eq_some_iff.1 h
        have hcommand : s.command name arguments =
            (.ok (s.excludeCommand rule).1, (s.excludeCommand rule).2) := by
          obtain rfl | rfl := hname
          · rw [QuickFix.excludeGlobally, Service.command, hrule]
          · rw [QuickFix.excludeInWorkspace, Service.command, hrule]
        rw [perform_excluded, Service.receive, hread]
        simp only [Service.answer, hcommand]
      · cases h
    · cases h

end Errand

end SqlLint
