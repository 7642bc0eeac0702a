import SqlLint.Proofs.Server.Conversation
import SqlLint.Proofs.Workspace.Ignoring

/-!
# Rules that are excluded

The command of a local run is told to leave out the rules that the settings exclude
(`excludes_iff_mem`).  A rule that the user excluded is among them until other settings are laid down:
local runs go on to leave it out if, and only if, all settings that are laid down later exclude it
themselves or have a dbt server do the work (`excludes_iff`).
-/

namespace SqlLint

open Text

/-- The command is told to leave out the rules that the settings exclude, and the rule is one of
them. -/
structure Command.Excludes (command : Command) (c : Config) (rule : String) : Prop where
  mem : rule ∈ c.settings.excludeRules
  exists_arguments : ∃ arguments,
    (command.program, command.arguments) = c.settings.shell.command c.executable arguments ∧
      ["--exclude-rules", joinStrings "," c.settings.excludeRules] <:+: arguments

namespace Workspace

variable {w : Workspace} {i : Invocation} {t : Target} {command : Command} {rule : String}

/-- The command that a local run hands to the machine; none if nothing runs, or not locally. -/
def command? (w : Workspace) (i : Invocation) : Option Command :=
  match i.validate with
  | .error _ => none
  | .ok t =>
    let arguments := w.arguments w.config i t (t.told? w.config)
    if w.settings.dbt.enabled ∨ w.isIgnored t (t.told? w.config) then none
    else some ((w.note (announcement w.config t arguments)).command w.config arguments t.contents?)

/-- What comes of an attempt to start the tool is what the machine makes of the command. -/
theorem spawned?_eq_map (hv : i.validate = .ok t) (off : w.settings.dbt.enabled = false) :
    w.spawned? w.config i t = (w.command? i).map fun command =>
      (w.note (announcement w.config t
        (w.arguments w.config i t (t.told? w.config)))).machine.spawn command := by
  unfold spawned? command?
  rw [hv]
  by_cases ignored : w.isIgnored t (t.told? w.config) = true
  · simp [ignored]
  · simp [ignored, off]

/-- The rules that the settings exclude stand among the arguments of every command. -/
theorem isInfix_arguments (h : rule ∈ w.config.settings.excludeRules) (i : Invocation) (t : Target)
    (relative : Option String) :
    ["--exclude-rules", joinStrings "," w.config.settings.excludeRules] <:+:
      w.arguments w.config i t relative := by
  have extra : ["--exclude-rules", joinStrings "," w.config.settings.excludeRules] <:+:
      w.config.extraArguments := by
    unfold Config.extraArguments
    simp only [if_neg (List.ne_nil_of_mem h)]
    exact ((List.infix_append _ _ _).trans (List.prefix_append _ _).isInfix).trans
      (List.prefix_append _ _).isInfix
  exact extra.trans (List.infix_append (i.kind.word :: i.arguments) w.config.extraArguments _)

/-- A command leaves a rule out just if the settings exclude it. -/
theorem excludes_iff_mem (h : w.command? i = some command) :
    command.Excludes w.config rule ↔ rule ∈ w.settings.excludeRules := by
  refine ⟨fun excludes => excludes.mem, fun mem => ⟨mem, ?_⟩⟩
  unfold command? at h
  split at h
  · cases h
  · next t _ =>
    split at h
    · cases h
    · obtain rfl := Option.some.inj h
      exact ⟨_, rfl, isInfix_arguments mem i t _⟩

theorem dbt_of_command? (h : w.command? i = some command) : w.settings.dbt.enabled = false := by
  unfold command? at h
  split at h
  · cases h
  · split at h
    · cases h
    · next local_ => exact Bool.not_eq_true _ ▸ fun enabled => local_ (.inl enabled)

/-- A file can be linted wherever runs are local. -/
theorem exists_command? (off : w.settings.dbt.enabled = false) :
    ∃ command, w.command? ⟨.lint, [], some (.file "a.sql")⟩ = some command := by
  refine ⟨_, if_neg ?_⟩
  rintro (enabled | ignored)
  · rw [off] at enabled
    cases enabled
  · cases ignored

end Workspace

/-- The rule is left out by local runs with the settings, if there are any. -/
def Settings.LeavesOut (rule : String) (s : Settings) : Prop :=
  s.dbt.enabled = true ∨ rule ∈ s.excludeRules

theorem Settings.isLasting_leavesOut (rule : String) : IsLasting (LeavesOut rule) where
  apply _ _ leaves := leaves
  excludeRule? s s' other excluded leaves := by
    obtain ⟨rules, rfl, mem⟩ := excludeRule?_eq_some excluded
    exact leaves.imp id fun known => (mem rule).2 (.inl known)

namespace Conversation

variable {c d e : Conversation} {m : Message} {id : Json} {rule : String} {h : List Turn}
  {P : Settings → Prop}

/-- Settings that are the next to be put in force are in force some time later. -/
theorem exists_settings {config : Config} {rest : List Deed}
    (agenda : c.agenda = .configure config :: rest) (hd : c.follow? h = some d)
    (idle : d.agenda = []) :
    ∃ g k e, h = g ++ k ∧ c.follow? g = some e ∧ e.follow? k = some d ∧
      e.service.workspace.config = config ∧ e.agenda = rest := by
  obtain ⟨g, b, ⟨k, rfl⟩, hb, hagenda⟩ := exists_proceed agenda hd idle
  let e : Conversation :=
    ⟨⟨(Deed.configure config).perform b.service, rest, b.taken⟩, b.forced?.toList ++ b.asked⟩
  have proceeds : b.step? .proceed = some e := by
    rw [Conversation.step?, Session.step?, hagenda]
    rfl
  have he : c.follow? (g ++ [.proceed]) = some e := by
    rw [follow?_append, hb, Option.bind_some, follow?_cons, proceeds]
    rfl
  rw [follow?_append, he] at hd
  exact ⟨g ++ [.proceed], k, e, rfl, he, hd, rfl, rfl⟩

/-- When a rule was excluded, the settings exclude it. -/
theorem leavesOut_of_handles (told : Errand.of? m = some (.excluded id rule))
    (handled : c.Handles m d) : d.Holds (Settings.LeavesOut rule) := by
  have lasting := Settings.isLasting_leavesOut rule
  obtain ⟨h, silent, hd, idle⟩ := handled
  have noSettings {k : List Turn} (sub : k ⊆ h) : ∀ m ∈ k.filterMap Turn.message?, ∀ settings,
      m.settings? = some settings → settings.LeavesOut rule := by
    intro m hm
    obtain ⟨x, hx, hm⟩ := List.mem_filterMap.1 hm
    rw [silent x (sub hx)] at hm
    cases hm
  rw [follow?_cons] at hd
  obtain ⟨b, hb, hd⟩ := Option.bind_eq_some_iff.1 hd
  obtain rfl := step?_errand_eq_some told hb
  cases excluded : c.service.settings.excludeRule? rule with
  | none =>
    -- The rule was excluded before.
    have holds : Holds (Settings.LeavesOut rule)
        { c with agenda := (Errand.excluded id rule).deeds c.service } :=
      ⟨.inr (Settings.excludeRule?_eq_none_iff.1 excluded),
        fun config hconfig => by simp [Errand.deeds, excluded] at hconfig⟩
    exact holds.follow? lasting (noSettings (List.Subset.refl h)) hd
  | some settings =>
    let config : Config := { c.service.workspace.config with settings }
    have first : (Errand.excluded id rule).deeds c.service = .configure config ::
        (Errand.relint c.service.workspace.documents ++
          [.send (Message.answer id (.strings settings.excludeRules))]) := by
      rw [Errand.deeds, excluded]
      rfl
    obtain ⟨g, k, e, rfl, -, hd, hconfig, rest⟩ := exists_settings first hd idle
    have holds : e.Holds (Settings.LeavesOut rule) := by
      obtain ⟨rules, rfl, mem⟩ := Settings.excludeRule?_eq_some excluded
      refine ⟨?_, fun config hconfig => ?_⟩
      · show e.service.workspace.config.settings.LeavesOut rule
        rw [hconfig]
        exact .inr ((mem rule).2 (.inr rfl))
      · rw [rest] at hconfig
        simp [Errand.relint] at hconfig
    exact holds.follow? lasting (noSettings (List.subset_append_right g k)) hd

/-- Settings that are laid down are in force some time later, apart from what the command line laid
down. -/
theorem exists_settings_of_mem {settings : Settings} (hd : c.follow? h = some d)
    (idle : d.agenda = []) (hm : m ∈ h.filterMap Turn.message?) (laid : m.settings? = some settings) :
    ∃ g e o, g <+: h ∧ c.follow? g = some e ∧ e.service.settings = Overrides.apply o settings := by
  obtain ⟨x, hx, hxm⟩ := List.mem_filterMap.1 hm
  obtain ⟨g, k, rfl⟩ := List.append_of_mem hx
  obtain rfl : x = .message m := by
    cases x with
    | message m' => exact congrArg Turn.message (Option.some.inj hxm)
    | proceed | labour | elsewhere => cases hxm
  rw [follow?_append] at hd
  obtain ⟨b, hb, hd⟩ := Option.bind_eq_some_iff.1 hd
  rw [follow?_cons] at hd
  obtain ⟨b', hb', hd⟩ := Option.bind_eq_some_iff.1 hd
  -- The turns up to some point after the message.
  have upTo {k₁ k₂ : List Turn} {e : Conversation} (hk : k = k₁ ++ k₂)
      (he : b'.follow? k₁ = some e) : g ++ .message m :: k₁ <+: g ++ .message m :: k ∧
        c.follow? (g ++ .message m :: k₁) = some e := by
    refine ⟨⟨k₂, by simp [hk]⟩, ?_⟩
    rw [follow?_append, hb, Option.bind_some, follow?_cons, hb']
    exact he
  obtain ⟨value, errand, filled, rfl⟩ | ⟨id, method, parameters, opening, rfl, read, rfl⟩ :=
    Message.settings?_cases laid
  · obtain rfl := step?_errand_eq_some errand hb'
    have first : ∃ rest, (Errand.configured value).deeds b.service =
        .configure (b.service.configOf (b.service.settingsOf (some value))) :: rest := by
      rw [Errand.deeds, if_neg (by simp [filled])]
      exact ⟨_, rfl⟩
    obtain ⟨rest, first⟩ := first
    obtain ⟨k₁, k₂, e, hk, he, -, hconfig, -⟩ := exists_settings first hd idle
    obtain ⟨front, reached⟩ := upTo hk he
    refine ⟨_, e, b.service.overrides, front, reached, ?_⟩
    show e.service.workspace.config.settings = _
    rw [hconfig]
    rfl
  · obtain ⟨-, ⟨agenda, hagenda, -⟩ | ⟨-, rfl⟩⟩ := step?_message_eq_some hb'
    · have noErrand : Errand.of? (.request id method parameters) = none := by
        simp only [Errand.of?, read]
      have noLint : (Message.request id method parameters).lintCommand? = none := by
        simp only [Message.lintCommand?, read]
      rw [Service.deeds?, noErrand, noLint] at hagenda
      cases hagenda
    · obtain ⟨front, reached⟩ := upTo (List.nil_append k).symm rfl
      exact ⟨_, _, b.service.overrides, front, reached, (Service.receive_of_start read).1⟩

/-- From when a rule was excluded on, all commands of local runs leave it out if, and only if, all
settings that are laid down exclude it themselves or have a dbt server do the work. -/
theorem excludes_iff (told : Errand.of? m = some (.excluded id rule)) (handled : c.Handles m d)
    (he : d.follow? h = some e) (idle : e.agenda = []) :
    (∀ g f, g <+: h → d.follow? g = some f → ∀ i command,
      f.service.workspace.command? i = some command →
        command.Excludes f.service.workspace.config rule) ↔
    ∀ m ∈ h.filterMap Turn.message?, ∀ settings, m.settings? = some settings →
      settings.dbt.enabled = true ∨ rule ∈ settings.excludeRules := by
  constructor
  · intro excludes m hm settings laid
    obtain ⟨g, f, o, front, reached, inForce⟩ := exists_settings_of_mem he idle hm laid
    cases off : settings.dbt.enabled with
    | true => exact .inl rfl
    | false =>
      have isLocal : f.service.workspace.settings.dbt.enabled = false := by
        show f.service.settings.dbt.enabled = false
        rw [inForce]
        exact off
      obtain ⟨command, runs⟩ := Workspace.exists_command? isLocal
      have mem : rule ∈ f.service.settings.excludeRules :=
        (excludes g f front reached _ command runs).mem
      rw [inForce] at mem
      exact .inr mem
  · rintro laid g f ⟨k, rfl⟩ reached i command runs
    have holds : f.Holds (Settings.LeavesOut rule) := by
      refine (leavesOut_of_handles told handled).follow? (Settings.isLasting_leavesOut rule) ?_ reached
      exact fun m hm => laid m (by simp [hm])
    rw [Workspace.excludes_iff_mem runs]
    refine holds.now.resolve_left fun enabled => ?_
    have isLocal : f.service.settings.dbt.enabled = false := Workspace.dbt_of_command? runs
    rw [enabled] at isLocal
    cases isLocal

/-- A service that was just started. -/
def fresh : Conversation where
  service := {}

/-- The command to exclude a rule. -/
def excluding (rule : String) : Message :=
  .request (.nat 1) "workspace/executeCommand" (.object [
    ("command", .str QuickFix.excludeGlobally), ("arguments", .strings [rule])])

/-- Settings are laid down. -/
def configuring (members : List (String × Json)) : Message :=
  .notice "workspace/didChangeConfiguration" (.object [("settings", .object members)])

/-- Settings that exclude the rule themselves. -/
def listing : Message := configuring [("excludeRules", .strings ["L001"])]

theorem excludes_iff_listing :
    ∃ d e, fresh.Handles (excluding "L001") d ∧
      d.follow? (.message listing :: List.replicate 3 .proceed) = some e ∧
      ∀ i command, e.service.workspace.command? i = some command →
        command.Excludes e.service.workspace.config "L001" := by
  have facts : ((fresh.follow? (.message (excluding "L001") :: List.replicate 2 .proceed)).bind
      fun d => (d.follow? (.message listing :: List.replicate 3 .proceed)).map fun e =>
        (d.agenda.isEmpty, e.agenda.isEmpty)) = some (true, true) := by
    decide +kernel
  obtain ⟨d, hd, facts⟩ := Option.bind_eq_some_iff.1 facts
  obtain ⟨e, he, facts⟩ := Option.map_eq_some_iff.1 facts
  simp only [Prod.mk.injEq, List.isEmpty_iff] at facts
  have handled : fresh.Handles (excluding "L001") d :=
    ⟨List.replicate 2 .proceed, by simp [Turn.message?], hd, facts.1⟩
  have lists : (listing.settings?.map (·.excludeRules)) = some ["L001"] := by decide +kernel
  have told : Errand.of? (excluding "L001") = some (.excluded (.nat 1) "L001") := rfl
  refine ⟨d, e, handled, he, ?_⟩
  refine (excludes_iff told handled he facts.2).2 ?_ _ e (List.prefix_refl _) he
  intro m hm settings laid
  obtain rfl : m = listing := by simpa [Turn.message?] using hm
  rw [laid] at lists
  have lists : settings.excludeRules = ["L001"] := Option.some.inj lists
  exact .inr (by simp [lists])

/-- Settings that say nothing about the rule are laid down, and local runs no longer leave it out. -/
theorem not_excludes_configured :
    ∃ d e command, fresh.Handles (excluding "L001") d ∧ d.Handles (configuring []) e ∧
      e.service.workspace.command? ⟨.lint, [], some (.file "a.sql")⟩ = some command ∧
      command.arguments = ["lint", "a.sql"] ∧
      ¬ command.Excludes e.service.workspace.config "L001" := by
  have facts : ((fresh.follow? (.message (excluding "L001") :: List.replicate 2 .proceed)).bind
      fun d => (d.follow? (.message (configuring []) :: List.replicate 3 .proceed)).bind fun e =>
        (e.service.workspace.command? ⟨.lint, [], some (.file "a.sql")⟩).map fun command =>
          (d.agenda.isEmpty, e.agenda.isEmpty, command.arguments, e.service.settings.excludeRules)) =
      some (true, true, ["lint", "a.sql"], []) := by
    decide +kernel
  obtain ⟨d, hd, facts⟩ := Option.bind_eq_some_iff.1 facts
  obtain ⟨e, he, facts⟩ := Option.bind_eq_some_iff.1 facts
  obtain ⟨command, runs, facts⟩ := Option.map_eq_some_iff.1 facts
  simp only [Prod.mk.injEq, List.isEmpty_iff] at facts
  obtain ⟨idle, idle', arguments, noRules⟩ := facts
  refine ⟨d, e, command, ⟨_, by simp [Turn.message?], hd, idle⟩,
    ⟨_, by simp [Turn.message?], he, idle'⟩, runs, arguments, fun excludes => ?_⟩
  have mem : "L001" ∈ e.service.settings.excludeRules := excludes.mem
  rw [noRules] at mem
  cases mem

end Conversation

end SqlLint
