import SqlLint.Proofs.Lint.Answers
import SqlLint.Proofs.Server.Session
import SqlLint.Proofs.Workspace.Configured

/-!
# Conversations

A `Conversation` is a session in which any message may come.  Errands and the command to lint are
carried out in deeds, one after the other (`Service.deeds?`); every other message is dealt with at
once, and it leaves the lanes as they are and lays down settings only when the editor starts the
service (`stands_receive`, `settings_receive`).  What holds of all settings that are laid down holds
of those in force (`Conversation.Holds.follow?`).
-/

namespace SqlLint

namespace Message

/-- The number and the arguments of the command to lint, if the message is that. -/
def lintCommand? : Message → Option (Json × List Json)
  | .request id method parameters =>
    match Request.read method parameters.draft with
    | .ok (.command name arguments) =>
      if name = "sqlfluff.lint" then some (id, arguments) else none
    | _ => none
  | _ => none

/-- The settings that a message lays down: those in it, or else the usual ones. -/
def settings? : Message → Option Settings
  | .request _ method parameters =>
    match Request.read method parameters.draft with
    | .ok (.start opening) => some ((opening.settings.bind Settings.ofJson?).getD {})
    | _ => none
  | .notice method parameters =>
    match Notice.read? method parameters.draft with
    | some (.configured value) =>
      if value.isNull then none else some ((Settings.ofJson? value).getD {})
    | _ => none
  | .other => none

/-- Settings are laid down by an errand, or when the editor starts the service. -/
theorem settings?_cases {m : Message} {settings : Settings} (h : m.settings? = some settings) :
    (∃ value, Errand.of? m = some (.configured value) ∧ value.isNull = false ∧
      settings = (Settings.ofJson? value).getD {}) ∨
    ∃ id method parameters opening, m = .request id method parameters ∧
      Request.read method parameters.draft = .ok (.start opening) ∧
      settings = (opening.settings.bind Settings.ofJson?).getD {} := by
  cases m with
  | other => cases h
  | notice method parameters =>
    simp only [settings?] at h
    split at h
    · next value read =>
      split at h
      · cases h
      · next filled =>
        refine .inl ⟨value, ?_, by simpa using filled, (Option.some.inj h).symm⟩
        simp [Errand.of?, read, Errand.ofNotice?]
    · cases h
  | request id method parameters =>
    simp only [settings?] at h
    split at h
    · next opening read =>
      exact .inr ⟨id, method, parameters, opening, rfl, read, (Option.some.inj h).symm⟩
    · cases h

/-- The errand of new settings lays them down. -/
theorem settings?_of_configured {m : Message} {value : Json}
    (configured : Errand.of? m = some (.configured value)) (filled : value.isNull = false) :
    m.settings? = some ((Settings.ofJson? value).getD {}) := by
  cases m with
  | other => cases configured
  | notice method parameters =>
    obtain ⟨n, read, same⟩ := Option.bind_eq_some_iff.1 configured
    cases n with
    | configured value' =>
      obtain rfl := Errand.configured.inj (Option.some.inj same)
      simp [settings?, read, filled]
    | ready | leave => cases same
    | opened | changed | saved | closed => cases same
  | request id method parameters =>
    simp only [Errand.of?] at configured
    split at configured
    · simp only [Errand.ofCommand?] at configured
      split at configured
      · obtain ⟨rule, -, same⟩ := Option.map_eq_some_iff.1 configured
        cases same
      · cases configured
    · cases configured

end Message

/-- A forced lint is asked for where the document stands. -/
theorem Linter.forced_eq (l : Linter) (uri : Url) :
    l.forced uri = l.trigger uri (((l.documents.get? uri).map sourceOf).getD .file) true := by
  unfold forced
  cases l.documents.get? uri <;> rfl

namespace Service

variable {s s' : Service} {m : Message} {ds : List Deed}

/-! ## Deeds of messages -/

/-- The deeds for the command to lint: lints are forced of the document that it names, or else of all
that are open. -/
def lintDeeds (s : Service) (id : Json) (arguments : List Json) : List Deed :=
  (match documentOf? arguments with
  | some uri =>
    [.trigger uri (((s.workspace.documents.get? uri).map Linter.sourceOf).getD .file) true]
  | none => s.workspace.documents.map fun d => .trigger d.uri (Linter.sourceOf d) true) ++
    [.send (Message.answer id .null)]

/-- The deeds in which the service carries a message out; none if it does not do so in deeds. -/
def deeds? (s : Service) (m : Message) : Option (List Deed) :=
  match Errand.of? m with
  | some e => some (e.deeds s)
  | none => m.lintCommand?.map fun (id, arguments) => s.lintDeeds id arguments

theorem perform_lintDeeds (s : Service) (id : Json) (arguments : List Json) :
    (s.lintDeeds id arguments).foldl Deed.perform s =
      (s.modifyLinter fun l => match documentOf? arguments with
        | some uri => l.forced uri
        | none => l.lintOpen true).send (Message.answer id .null) := by
  unfold lintDeeds
  rw [List.foldl_append]
  refine congrArg (fun s : Service => s.send (Message.answer id .null)) ?_
  cases documentOf? arguments with
  | some uri => exact congrArg (fun l => { s with linter := l }) (s.linter.forced_eq uri).symm
  | none =>
    have each (ds : Documents) (s : Service) :
        (ds.map fun d => Deed.trigger d.uri (Linter.sourceOf d) true).foldl Deed.perform s =
          s.modifyLinter fun l =>
            ds.foldl (fun l d => l.trigger d.uri (Linter.sourceOf d) true) l := by
      induction ds generalizing s with
      | nil => rfl
      | cons d ds ih => exact ih _
    exact each s.workspace.documents s

/-- The deeds of a message, with nothing between them, are what the service does when it receives
it. -/
theorem receive_of_deeds? (h : s.deeds? m = some ds) :
    s.receive m = (.goOn, ds.foldl Deed.perform s) := by
  unfold deeds? at h
  split at h
  · next e he =>
    obtain rfl := Option.some.inj h
    exact Errand.receive_eq_perform he
  · obtain ⟨⟨id, arguments⟩, command, rfl⟩ := Option.map_eq_some_iff.1 h
    cases m with
    | other => cases command
    | notice method parameters => cases command
    | request number method parameters =>
      simp only [Message.lintCommand?] at command
      split at command
      · next name _ read =>
        split at command
        · next named =>
          obtain ⟨rfl, rfl⟩ := Prod.mk.inj (Option.some.inj command)
          subst named
          rw [receive, read, perform_lintDeeds]
          rfl
        · cases command
      · cases command

/-! ## Other messages -/

/-- The configuration and the lanes are as they were. -/
structure Stands (s s' : Service) : Prop where
  config : s'.workspace.config = s.workspace.config
  lanes : s'.linter.lanes = s.linter.lanes

theorem stands_refl (s : Service) : s.Stands s := ⟨rfl, rfl⟩

theorem stands_withWorkspace {w : Workspace} (h : w.config = s.workspace.config) :
    s.Stands (s.withWorkspace w) := ⟨h, rfl⟩

theorem Stands.trans {s'' : Service} (h : s.Stands s') (h' : s'.Stands s'') : s.Stands s'' :=
  ⟨h'.config.trans h.config, h'.lanes.trans h.lanes⟩

theorem Stands.settings (h : s.Stands s') : s'.settings = s.settings :=
  congrArg Config.settings h.config

theorem stands_send (s : Service) (message : Json) : s.Stands (s.send message) := ⟨rfl, rfl⟩

theorem stands_lintRoot (s : Service) (root : String) (force : Bool) :
    s.Stands (s.lintRoot root force) := by
  unfold lintRoot modifyLinter Linter.startProject
  dsimp only
  split <;> exact ⟨rfl, rfl⟩

theorem stands_lintProjectIfEnabled (s : Service) : s.Stands s.lintProjectIfEnabled := by
  unfold lintProjectIfEnabled
  split
  · cases s.root with
    | none => exact s.stands_refl
    | some root => exact s.stands_lintRoot root false
  · exact s.stands_refl

theorem stands_ready (s : Service) : s.Stands s.ready := by
  have probed : s.Stands (s.modify Workspace.refreshVersion) :=
    ⟨Workspace.config_refreshVersion s.workspace, rfl⟩
  exact probed.trans (stands_lintProjectIfEnabled _)

theorem stands_killAll (s : Service) : s.Stands s.killAll := ⟨rfl, rfl⟩

theorem stands_report (s : Service) (e : FormatError) : s.Stands (s.report e) := by
  unfold report
  split
  · exact s.stands_refl
  · exact s.stands_refl
  · exact s.stands_refl
  · exact ⟨Workspace.config_complain _ _ _, rfl⟩

theorem stands_format (s : Service) (uri : Url) (range : Option Range) :
    s.Stands (s.format uri range).2 := by
  unfold format
  split
  · exact s.stands_refl
  · cases range with
    | some range =>
      have kept := Workspace.config_formatRange s.workspace uri range
      dsimp only
      split
      · exact stands_withWorkspace kept
      · exact (stands_withWorkspace kept).trans (stands_report _ _)
    | none =>
      have kept := Workspace.config_formatDocument s.workspace uri
      dsimp only
      split
      · exact stands_withWorkspace kept
      · exact (stands_withWorkspace kept).trans (stands_report _ _)

theorem stands_formatCommand (s : Service) (uri : Url) : s.Stands (s.formatCommand uri) := by
  have kept := Workspace.config_formatDocument s.workspace uri
  unfold formatCommand
  generalize s.workspace.formatDocument uri = outcome at kept ⊢
  obtain ⟨e | (_ | ⟨edit, edits⟩), w⟩ := outcome
  · exact (stands_withWorkspace kept).trans (stands_report _ e)
  · exact stands_withWorkspace kept
  · exact (stands_withWorkspace kept).trans ⟨rfl, rfl⟩

theorem stands_debugCommand (s : Service) : s.Stands s.debugCommand.2 := by
  have kept := Workspace.config_check s.workspace
  unfold debugCommand
  generalize s.workspace.check = outcome at kept ⊢
  obtain ⟨checkup, w⟩ := outcome
  dsimp only
  split
  · exact stands_withWorkspace ((Workspace.config_of_kept (Workspace.kept_showMessage w _ _)).trans kept)
  · exact stands_withWorkspace ((Workspace.config_of_kept (Workspace.kept_showMessage w _ _)).trans kept)

/-- Commands other than those to lint and to exclude a rule let the configuration and lanes stand. -/
theorem stands_command {id : Json} {name : String} {arguments : List Json}
    (noErrand : Errand.ofCommand? id name arguments = none) (noLint : name ≠ "sqlfluff.lint") :
    s.Stands (s.command name arguments).2 := by
  have unnamed (excluding : name = QuickFix.excludeGlobally ∨ name = QuickFix.excludeInWorkspace) :
      arguments.head?.bind Json.str? = none := by
    rw [Errand.ofCommand?, if_pos excluding] at noErrand
    exact Option.map_eq_none_iff.1 noErrand
  unfold command
  dsimp only
  split
  · exact absurd rfl noLint
  · cases s.root with
    | none => exact s.stands_refl
    | some root => exact s.stands_lintRoot root true
  · cases documentOf? arguments with
    | none => exact s.stands_refl
    | some uri => exact s.stands_formatCommand uri
  · exact s.stands_debugCommand
  · exact ⟨Workspace.config_of_kept (Workspace.kept_showMessage _ _ _), rfl⟩
  · rw [unnamed (.inl rfl)]
    exact s.stands_refl
  · rw [unnamed (.inr rfl)]
    exact s.stands_refl
  · exact s.stands_refl

/-- A message that has no deeds and lays down no settings lets the configuration and lanes stand. -/
theorem stands_receive (noDeeds : s.deeds? m = none) (noSettings : m.settings? = none) :
    s.Stands (s.receive m).2 := by
  have noErrand : Errand.of? m = none := by
    unfold deeds? at noDeeds
    split at noDeeds
    · cases noDeeds
    · assumption
  have noLint : m.lintCommand? = none := by
    rw [deeds?, noErrand] at noDeeds
    exact Option.map_eq_none_iff.1 noDeeds
  cases m with
  | other => exact s.stands_refl
  | notice method parameters =>
    rw [receive]
    cases read : Notice.read? method parameters.draft with
    | none => exact s.stands_refl
    | some n =>
      rw [Errand.of?, read] at noErrand
      cases n with
      | ready => exact s.stands_ready
      | leave => exact s.stands_killAll
      | opened | changed | saved | closed | configured => cases noErrand
  | request id method parameters =>
    rw [receive]
    cases read : Request.read method parameters.draft with
    | error fault => exact s.stands_send _
    | ok r =>
      rw [Errand.of?, read] at noErrand
      rw [Message.lintCommand?, read] at noLint
      rw [Message.settings?, read] at noSettings
      suffices stands : s.Stands (s.answer r).2 from stands.trans (stands_send _ _)
      cases r with
      | start opening => cases noSettings
      | shutDown => exact s.stands_killAll
      | format uri => exact s.stands_format uri none
      | formatRange uri range => exact s.stands_format uri (some range)
      | quickFixes uri diagnostics =>
        unfold answer
        dsimp only
        split <;> exact s.stands_refl
      | hover uri position => exact s.stands_refl
      | command name arguments =>
        refine stands_command noErrand ?_
        rintro rfl
        cases noLint

/-- The editor starts the service: the settings that it lays down are in force, apart from what the
command line laid down. -/
theorem receive_of_start {id parameters : Json} {method : String} {opening : Opening}
    (read : Request.read method parameters.draft = .ok (.start opening)) :
    (s.receive (.request id method parameters)).2.settings =
        s.overrides.apply ((opening.settings.bind Settings.ofJson?).getD {}) ∧
      (s.receive (.request id method parameters)).2.linter.lanes = s.linter.lanes := by
  rw [receive, read]
  exact ⟨rfl, rfl⟩

end Service

/-! ## Turns -/

/-- What may happen next in a conversation: a message comes, the next deed is done, a worker takes a
step, or anything changes in the workspace but what the editor gave. -/
inductive Turn where
  | message (m : Message)
  | proceed
  | labour (x : Labour)
  | elsewhere (w : Workspace)

/-- The message that comes in a turn. -/
def Turn.message? : Turn → Option Message
  | .message m => some m
  | _ => none

/-- A session, with the lints that the command to lint handed in, the last one first. -/
structure Conversation extends Session where
  asked : List LintJob := []

namespace Conversation

variable {c d e : Conversation} {x : Turn} {m : Message} {deed : Deed} {rest : List Deed}
  {h : List Turn}

/-- The lint that the next deed hands in by force. -/
def forced? (c : Conversation) : Option LintJob :=
  match c.agenda with
  | .trigger uri source true :: _ => c.linter.handing? uri source true
  | _ => none

/-- The conversation after a turn; none if it cannot be taken. -/
def step? (c : Conversation) : Turn → Option Conversation
  | .message m =>
    if c.agenda.isEmpty then
      match c.service.deeds? m with
      | some agenda => some { c with agenda }
      | none => some { c with service := (c.service.receive m).2 }
    else none
  | .proceed => (c.toSession.step? .proceed).map fun s => ⟨s, c.forced?.toList ++ c.asked⟩
  | .labour x => (c.toSession.step? (.labour x)).map fun s => ⟨s, c.asked⟩
  | .elsewhere w => some { c with
      service := c.service.modify fun v => { w with config := v.config, documents := v.documents } }

/-- The conversation after turns; none if one of them cannot be taken. -/
def follow? (c : Conversation) (h : List Turn) : Option Conversation := h.foldlM step? c

theorem follow?_cons (c : Conversation) (x : Turn) (h : List Turn) :
    c.follow? (x :: h) = (c.step? x).bind (·.follow? h) := by
  rw [follow?, List.foldlM_cons]
  rfl

theorem follow?_append (c : Conversation) (g h : List Turn) :
    c.follow? (g ++ h) = (c.follow? g).bind (·.follow? h) := by
  rw [follow?, List.foldlM_append]
  rfl

/-- What every turn of a kind preserves holds after all of them. -/
theorem follow?_preserves {P : Conversation → Prop} {Q : Turn → Prop}
    (step : ∀ c x d, Q x → P c → c.step? x = some d → P d) (hh : ∀ x ∈ h, Q x) (hc : P c)
    (hd : c.follow? h = some d) : P d := by
  induction h generalizing c with
  | nil =>
    obtain rfl : c = d := Option.some.inj hd
    exact hc
  | cons x h ih =>
    rw [follow?_cons] at hd
    obtain ⟨c', hx, hd⟩ := Option.bind_eq_some_iff.1 hd
    exact ih (fun y hy => hh y (.tail _ hy)) (step c x c' (hh x (.head _)) hc hx) hd

/-- The message comes and is dealt with, whatever else happens meanwhile. -/
def Handles (c : Conversation) (m : Message) (d : Conversation) : Prop :=
  ∃ h, (∀ x ∈ h, x.message? = none) ∧ c.follow? (.message m :: h) = some d ∧ d.agenda = []

/-! ### What a turn does -/

/-- A message that comes is broken up into its deeds, or is dealt with at once. -/
theorem step?_message_eq_some (hx : c.step? (.message m) = some d) :
    c.agenda = [] ∧
      ((∃ agenda, c.service.deeds? m = some agenda ∧ d = { c with agenda }) ∨
      (c.service.deeds? m = none ∧ d = { c with service := (c.service.receive m).2 })) := by
  rw [step?] at hx
  split at hx
  · next idle =>
    refine ⟨List.isEmpty_iff.1 idle, ?_⟩
    split at hx
    · next agenda deeds => exact .inl ⟨agenda, deeds, (Option.some.inj hx).symm⟩
    · next deeds => exact .inr ⟨deeds, (Option.some.inj hx).symm⟩
  · cases hx

/-- What comes of an errand is its deeds. -/
theorem step?_errand_eq_some {e : Errand} (errand : Errand.of? m = some e)
    (hx : c.step? (.message m) = some d) : d = { c with agenda := e.deeds c.service } := by
  have deeds : c.service.deeds? m = some (e.deeds c.service) := by
    rw [Service.deeds?, errand]
  obtain ⟨-, ⟨agenda, hagenda, rfl⟩ | ⟨noDeeds, -⟩⟩ := step?_message_eq_some hx
  · rw [Option.some.inj (deeds.symm.trans hagenda)]
  · rw [deeds] at noDeeds
    cases noDeeds

theorem step?_proceed_eq_some (hx : c.step? .proceed = some d) :
    ∃ deed agenda, c.agenda = deed :: agenda ∧
      d = ⟨⟨deed.perform c.service, agenda, c.taken⟩, c.forced?.toList ++ c.asked⟩ := by
  obtain ⟨s, hs, rfl⟩ := Option.map_eq_some_iff.1 hx
  obtain ⟨deed, agenda, hagenda, rfl⟩ := Session.step?_proceed_eq_some hs
  exact ⟨deed, agenda, hagenda, rfl⟩

theorem step?_labour_eq_some {y : Labour} (hx : c.step? (.labour y) = some d) :
    ∃ l, c.linter.labour? y = some l ∧
      d = ⟨⟨{ c.service with linter := l }, c.agenda, (c.linter.taking? y).toList ++ c.taken⟩,
        c.asked⟩ := by
  obtain ⟨s, hs, rfl⟩ := Option.map_eq_some_iff.1 hx
  obtain ⟨l, hl, rfl⟩ := Option.map_eq_some_iff.1 hs
  exact ⟨l, hl, rfl⟩

/-- Until the next deed is done nothing else comes to be done, and once all is done it was done. -/
theorem exists_proceed (agenda : c.agenda = deed :: rest) (hd : c.follow? h = some d)
    (idle : d.agenda = []) :
    ∃ g e, g ++ [.proceed] <+: h ∧ c.follow? g = some e ∧ e.agenda = deed :: rest := by
  induction h generalizing c with
  | nil =>
    obtain rfl : c = d := Option.some.inj hd
    rw [agenda] at idle
    cases idle
  | cons x h ih =>
    rw [follow?_cons] at hd
    obtain ⟨c', hx, hd⟩ := Option.bind_eq_some_iff.1 hd
    have later (agenda' : c'.agenda = deed :: rest) :
        ∃ g e, g ++ [.proceed] <+: x :: h ∧ c.follow? g = some e ∧ e.agenda = deed :: rest := by
      obtain ⟨g, e, hg, he, hagenda⟩ := ih agenda' hd
      refine ⟨x :: g, e, List.cons_prefix_cons.2 ⟨rfl, hg⟩, ?_, hagenda⟩
      rw [follow?_cons, hx]
      exact he
    cases x with
    | message m =>
      rw [(step?_message_eq_some hx).1] at agenda
      cases agenda
    | proceed => exact ⟨[], c, ⟨h, rfl⟩, rfl, agenda⟩
    | labour y =>
      obtain ⟨l, -, rfl⟩ := step?_labour_eq_some hx
      exact later agenda
    | elsewhere w =>
      obtain rfl := Option.some.inj hx
      exact later agenda

end Conversation

/-! ## Lasting settings -/

/-- What holds of settings whatever the command line lays down, and also when a rule is excluded. -/
structure Settings.IsLasting (P : Settings → Prop) : Prop where
  apply : ∀ (o : Overrides) (s : Settings), P s → P (o.apply s)
  excludeRule? : ∀ (s s' : Settings) (rule : String), s.excludeRule? rule = some s' → P s → P s'

namespace Conversation

variable {c d : Conversation} {x : Turn} {h : List Turn} {P : Settings → Prop}

/-- It holds of the settings, and of those that are still to be put in force. -/
structure Holds (P : Settings → Prop) (c : Conversation) : Prop where
  now : P c.service.settings
  next : ∀ config, .configure config ∈ c.agenda → P config.settings

theorem settings_perform (s : Service) (deed : Deed)
    (other : ∀ config, deed ≠ .configure config) : (deed.perform s).settings = s.settings := by
  cases deed with
  | configure config => exact absurd rfl (other config)
  | trigger uri source force =>
    exact congrArg (·.workspace.settings) (s.linter.bench_trigger uri source force)
  | refresh => exact congrArg Config.settings (Workspace.config_refreshVersion _)
  | clear uri =>
    show (s.linter.clear uri).settings = s.linter.settings
    unfold Linter.clear
    split <;> rfl
  | lintProject => exact (s.stands_lintProjectIfEnabled).settings
  | store | drop | retire | reset | send => rfl

/-- The errands that put settings in force: new settings are laid down, or one more rule is
excluded. -/
theorem configure_mem_deeds {s : Service} {e : Errand} {config : Config}
    (hd : .configure config ∈ e.deeds s) :
    (∃ value, e = .configured value ∧ value.isNull = false ∧
      config = s.configOf (s.settingsOf (some value))) ∨
    ∃ id rule settings, e = .excluded id rule ∧ s.settings.excludeRule? rule = some settings ∧
      config = { s.workspace.config with settings } := by
  have unlinted (documents : Documents) : .configure config ∉ Errand.relint documents := by
    simp [Errand.relint]
  cases e with
  | opened | saved | closed => simp [Errand.deeds] at hd
  | changed uri version changes =>
    rw [Errand.deeds] at hd
    split at hd <;> simp at hd
  | configured value =>
    rw [Errand.deeds] at hd
    split at hd
    · cases hd
    · next filled =>
      refine .inl ⟨value, rfl, by simpa using filled, ?_⟩
      by_cases renamed : (s.workspace.configure (s.configOf (s.settingsOf (some value)))).1
      · simpa [renamed, unlinted] using hd
      · simpa [renamed, unlinted] using hd
  | excluded id rule =>
    rw [Errand.deeds] at hd
    split at hd
    · next settings excluded =>
      exact .inr ⟨id, rule, settings, rfl, excluded, by simpa [unlinted] using hd⟩
    · simp at hd

/-- The settings that a deed of a message puts in force are those that it lays down, or those before
with one more rule excluded. -/
theorem settings_of_mem_deeds? {s : Service} {m : Message} {ds : List Deed} {config : Config}
    (deeds : s.deeds? m = some ds) (hd : .configure config ∈ ds) :
    (∃ settings, m.settings? = some settings ∧ config.settings = s.overrides.apply settings) ∨
    ∃ rule, s.settings.excludeRule? rule = some config.settings := by
  unfold Service.deeds? at deeds
  split at deeds
  · next e he =>
    obtain rfl := Option.some.inj deeds
    obtain ⟨value, rfl, filled, rfl⟩ | ⟨id, rule, settings, rfl, excluded, rfl⟩ :=
      configure_mem_deeds hd
    · exact .inl ⟨_, Message.settings?_of_configured he filled, rfl⟩
    · exact .inr ⟨rule, excluded⟩
  · obtain ⟨⟨id, arguments⟩, -, rfl⟩ := Option.map_eq_some_iff.1 deeds
    have hd : .configure config ∈ s.lintDeeds id arguments := hd
    unfold Service.lintDeeds at hd
    split at hd <;> simp at hd

/-- What is lasting goes on to hold if it holds of the settings that a message lays down. -/
theorem Holds.step? (lasting : Settings.IsLasting P) (holds : c.Holds P)
    (laid : ∀ m settings, x.message? = some m → m.settings? = some settings → P settings)
    (hx : c.step? x = some d) : d.Holds P := by
  cases x with
  | message m =>
    obtain ⟨idle, ⟨agenda, deeds, rfl⟩ | ⟨deeds, rfl⟩⟩ := step?_message_eq_some hx
    · refine ⟨holds.now, fun config hconfig => ?_⟩
      obtain ⟨settings, hsettings, hconfig⟩ | ⟨rule, excluded⟩ :=
        settings_of_mem_deeds? deeds hconfig
      · rw [hconfig]
        exact lasting.apply _ _ (laid m settings rfl hsettings)
      · exact lasting.excludeRule? _ _ rule excluded holds.now
    · refine ⟨?_, holds.next⟩
      show P (c.service.receive m).2.settings
      cases hsettings : m.settings? with
      | none =>
        rw [(Service.stands_receive deeds hsettings).settings]
        exact holds.now
      | some settings =>
        obtain ⟨value, errand, -, -⟩ | ⟨id, method, parameters, opening, rfl, read, rfl⟩ :=
          Message.settings?_cases hsettings
        · rw [Service.deeds?, errand] at deeds
          cases deeds
        · rw [(Service.receive_of_start read).1]
          exact lasting.apply _ _ (laid _ _ rfl hsettings)
  | proceed =>
    obtain ⟨deed, agenda, hagenda, rfl⟩ := step?_proceed_eq_some hx
    have next (config : Config) (hconfig : .configure config ∈ agenda) : P config.settings :=
      holds.next config (hagenda ▸ .tail _ hconfig)
    refine ⟨?_, next⟩
    show P (deed.perform c.service).settings
    by_cases configures : ∃ config, deed = .configure config
    · obtain ⟨config, rfl⟩ := configures
      exact holds.next config (hagenda ▸ .head _)
    · rw [settings_perform _ _ fun config h => configures ⟨config, h⟩]
      exact holds.now
  | labour y =>
    obtain ⟨l, hl, rfl⟩ := step?_labour_eq_some hx
    refine ⟨?_, holds.next⟩
    have given := Linter.given_of_labour? hl
    have config : l.workspace.config = c.linter.workspace.config := congrArg Prod.fst given
    show P l.workspace.config.settings
    rw [config]
    exact holds.now
  | elsewhere w =>
    obtain rfl := Option.some.inj hx
    exact ⟨holds.now, holds.next⟩

/-- What is lasting and holds of all settings that messages lay down holds to the end. -/
theorem Holds.follow? (lasting : Settings.IsLasting P) (holds : c.Holds P)
    (laid : ∀ m ∈ h.filterMap Turn.message?, ∀ settings, m.settings? = some settings → P settings)
    (hd : c.follow? h = some d) : d.Holds P := by
  refine follow?_preserves (Q := fun x => ∀ m settings, x.message? = some m →
    m.settings? = some settings → P settings)
    (fun c x d laid holds hx => holds.step? lasting laid hx) (fun x hx m settings hm => ?_) holds hd
  exact laid m (List.mem_filterMap.2 ⟨x, hx, hm⟩) settings

end Conversation

end SqlLint
