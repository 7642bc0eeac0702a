import SqlLint.Proofs.Server.Conversation

/-!
# When linting is off

Settings that turn linting off take effect in deeds: the configuration changes, all lanes are given
up, and what is asked for afterwards hands nothing in (`TurnsOff`).  From then on, until settings are
laid down again, workers take nothing but lints that the command to lint handed in, each once and in
their order, and the lanes of before take none (`taken_of_off`).
-/

namespace SqlLint

/-- A deed that starts nothing while linting is off. -/
def Deed.IsMild : Deed → Prop
  | .trigger _ _ force => force = false
  | .lintProject => True
  | _ => False

/-- The deeds give all lanes up, and hand in nothing by force afterwards. -/
inductive GivesUp : List Deed → Prop
  | refresh {ds : List Deed} : GivesUp ds → GivesUp (.refresh :: ds)
  | reset {ds : List Deed} : (∀ deed ∈ ds, deed.IsMild) → GivesUp (.reset :: ds)

theorem isMild_of_mem_relint {documents : Documents} {deed : Deed}
    (h : deed ∈ Errand.relint documents) : deed.IsMild := by
  obtain ⟨d, -, rfl⟩ := List.mem_map.1 h
  rfl

/-- The deeds that lay new settings down give all lanes up, whether the tool has to be looked for or
not. -/
theorem givesUp_relint (front : List Deed) (refreshes : front = [] ∨ front = [.refresh])
    (documents : Documents) :
    GivesUp (front ++ (.reset :: Errand.relint documents ++ [.lintProject])) := by
  have gives : GivesUp (.reset :: Errand.relint documents ++ [.lintProject]) := by
    refine .reset fun deed hdeed => ?_
    obtain hdeed | hdeed := List.mem_append.1 hdeed
    · exact isMild_of_mem_relint hdeed
    · exact List.mem_singleton.1 hdeed ▸ trivial
  obtain rfl | rfl := refreshes
  · exact gives
  · exact .refresh gives

theorem Deed.stands_perform {s : Service} {deed : Deed} (off : s.settings.linter.run = .off)
    (mild : deed.IsMild) : s.Stands (deed.perform s) := by
  cases deed with
  | trigger uri source force =>
    obtain rfl : force = false := mild
    have same : s.linter.trigger uri source false = s.linter := Linter.trigger_of_off off uri source
    rw [perform, Service.modifyLinter, same]
    exact s.stands_refl
  | lintProject => exact s.stands_lintProjectIfEnabled
  | store | configure | refresh | drop | retire | clear | reset | send => cases mild

/-- Workers find nothing in lanes that were given up. -/
theorem Linter.IsShut.labour? {l l' : Linter} {y : Labour} (shut : l.IsShut)
    (hx : l.labour? y = some l') : l'.IsShut := by
  have same (h : l'.lanes = l.lanes) : l'.IsShut := fun lane hlane => shut lane (h ▸ hlane)
  cases y with
  | take i =>
    obtain ⟨lane, job, delayer, hlane, htake, -⟩ := take?_eq_some hx
    have waits := (Delayer.task_of_take? htake).1
    rw [(shut lane (List.mem_of_getElem? hlane)).2] at waits
    cases waits
  | work i =>
    obtain ⟨lane, run, run', bench, hlane, -, -, rfl⟩ := work?_eq_some hx
    intro lane' hlane'
    obtain hlane' | rfl := List.mem_or_eq_of_mem_set hlane'
    · exact shut lane' hlane'
    · obtain ⟨closed, empty⟩ := shut lane (List.mem_of_getElem? hlane)
      refine ⟨(lane.keeps_advanced run').closed closed, Option.eq_none_iff_forall_ne_some.2 ?_⟩
      intro job waits
      rw [((lane.keeps_advanced run').waits job waits).1] at empty
      cases empty
  | look i => exact same (lanes_of_look? hx)
  | start i => exact same (lanes_of_start? hx)
  | workAt i j => exact same (lanes_of_workAt? hx)
  | leave i j => exact same (lanes_of_leave? hx)

theorem Linter.isShut_reset (l : Linter) : l.reset.IsShut := by
  intro lane hlane
  obtain ⟨old, -, rfl⟩ := List.mem_map.1 hlane
  exact ⟨rfl, rfl⟩

namespace Conversation

variable {c d t u : Conversation} {x : Turn} {m : Message} {h : List Turn} {value : Json}

theorem isLasting_off : Settings.IsLasting (·.linter.run = .off) where
  apply _ _ off := off
  excludeRule? s s' rule excluded off := by
    obtain ⟨rules, rfl, -⟩ := Settings.excludeRule?_eq_some excluded
    exact off

/-! ## Turning it off -/

/-- Linting is being turned off: what is still to do for that is to change the settings and to give
the lanes up, or only the latter, or nothing that matters. -/
inductive TurnsOff (c : Conversation) : Prop
  | told (config : Config) (rest : List Deed) : c.agenda = .configure config :: rest →
      config.settings.linter.run = .off → GivesUp rest → TurnsOff c
  | off : c.service.settings.linter.run = .off → GivesUp c.agenda → TurnsOff c
  | shut : c.service.settings.linter.run = .off → c.linter.IsShut →
      (∀ deed ∈ c.agenda, deed.IsMild) → TurnsOff c

theorem settings_of_labour? {l l' : Linter} {y : Labour} (hx : l.labour? y = some l') :
    l'.settings = l.settings :=
  congrArg (fun given : Config × Documents => given.1.settings) (Linter.given_of_labour? hx)

theorem TurnsOff.proceed (turns : c.TurnsOff) (hx : c.step? .proceed = some d) : d.TurnsOff := by
  obtain ⟨deed, agenda, hagenda, rfl⟩ := step?_proceed_eq_some hx
  cases turns with
  | told config rest htold off gives =>
    obtain ⟨rfl, rfl⟩ := List.cons.inj (hagenda.symm.trans htold)
    exact .off off gives
  | off off gives =>
    rw [hagenda] at gives
    cases gives with
    | refresh gives =>
      have kept : (Deed.refresh.perform c.service).settings = c.service.settings :=
        settings_perform c.service .refresh fun config => Deed.noConfusion
      refine .off ?_ gives
      show (Deed.refresh.perform c.service).settings.linter.run = .off
      rw [kept]
      exact off
    | reset mild => exact .shut off c.linter.isShut_reset mild
  | shut off shut mild =>
    rw [hagenda] at mild
    have stands := Deed.stands_perform off (mild deed (.head _))
    refine .shut ?_ (fun lane hlane => ?_) fun deed hdeed => mild deed (.tail _ hdeed)
    · show (deed.perform c.service).settings.linter.run = .off
      rw [stands.settings]
      exact off
    · exact shut lane (stands.lanes ▸ hlane)

theorem TurnsOff.step? (turns : c.TurnsOff) (noMessage : x.message? = none)
    (hx : c.step? x = some d) : d.TurnsOff := by
  cases x with
  | message m => cases noMessage
  | proceed => exact turns.proceed hx
  | labour y =>
    obtain ⟨l, hl, rfl⟩ := step?_labour_eq_some hx
    have kept {run : RunTrigger} (h : c.service.settings.linter.run = run) :
        l.settings.linter.run = run := by
      rw [settings_of_labour? hl]
      exact h
    cases turns with
    | told config rest htold off gives => exact .told config rest htold off gives
    | off off gives => exact .off (kept off) gives
    | shut off shut mild => exact .shut (kept off) (shut.labour? hl) mild
  | elsewhere w =>
    obtain rfl := Option.some.inj hx
    cases turns with
    | told config rest htold off gives => exact .told config rest htold off gives
    | off off gives => exact .off off gives
    | shut off shut mild => exact .shut off shut mild

/-- When settings that turn linting off have been dealt with, it is off and no lane is left. -/
theorem shut_of_handles (configured : Errand.of? m = some (.configured value))
    (off : ((Settings.ofJson? value).getD {}).linter.run = .off) (handled : c.Handles m t) :
    t.agenda = [] ∧ t.service.settings.linter.run = .off ∧ t.linter.IsShut := by
  obtain ⟨h, silent, ht, idle⟩ := handled
  rw [follow?_cons] at ht
  obtain ⟨s, hs, ht⟩ := Option.bind_eq_some_iff.1 ht
  have turns : s.TurnsOff := by
    obtain rfl := step?_errand_eq_some configured hs
    have filled : ¬ value.isNull = true := by
      intro null
      cases value with
      | null => exact absurd off (by decide)
      | _ => cases null
    refine .told (c.service.configOf (c.service.settingsOf (some value))) _ ?_ off
      (givesUp_relint (if (c.service.workspace.configure
        (c.service.configOf (c.service.settingsOf (some value)))).1 then [.refresh] else []) ?_
        c.service.workspace.documents)
    · show (Errand.configured value).deeds c.service = _
      rw [Errand.deeds, if_neg filled]
      simp
    · split
      · exact .inr rfl
      · exact .inl rfl
  have turned : t.TurnsOff := follow?_preserves (Q := fun x => x.message? = none)
    (fun c x d silent turns hx => turns.step? silent hx) silent turns ht
  refine ⟨idle, ?_⟩
  cases turned with
  | told config rest hagenda => rw [idle] at hagenda; cases hagenda
  | off _ gives => rw [idle] at gives; cases gives
  | shut off shut => exact ⟨off, shut⟩

/-! ## While it is off -/

/-- What workers took since a moment answers what the command to lint handed in since. -/
def Accounts (t c : Conversation) : Prop :=
  ∃ asked started, c.asked = asked ++ t.asked ∧ c.taken = started ++ t.taken ∧
    Linter.Answers t.linter.lanes.length asked started c.linter

theorem lanes_receive {s : Service} (noDeeds : s.deeds? m = none) :
    (s.receive m).2.linter.lanes = s.linter.lanes := by
  cases hsettings : m.settings? with
  | none => exact (Service.stands_receive noDeeds hsettings).lanes
  | some settings =>
    obtain ⟨value, errand, -, -⟩ | ⟨id, method, parameters, opening, rfl, read, -⟩ :=
      Message.settings?_cases hsettings
    · rw [Service.deeds?, errand] at noDeeds
      cases noDeeds
    · exact (Service.receive_of_start read).2

theorem Accounts.proceed (accounts : t.Accounts c) (off : c.service.settings.linter.run = .off)
    (hx : c.step? .proceed = some d) : t.Accounts d := by
  obtain ⟨asked, started, hasked, htaken, answers⟩ := accounts
  obtain ⟨deed, agenda, hagenda, rfl⟩ := step?_proceed_eq_some hx
  have unforced (h : c.forced? = none) (answers : Linter.Answers t.linter.lanes.length asked started
      (deed.perform c.service).linter) :
      t.Accounts ⟨⟨deed.perform c.service, agenda, c.taken⟩, c.forced?.toList ++ c.asked⟩ := by
    rw [h]
    exact ⟨asked, started, hasked, htaken, answers⟩
  have moved {y : Move} {l : Linter} (hy : c.linter.move? y = some l)
      (handed : c.linter.handed? y = none) (taken : c.linter.taken? y = none) :
      Linter.Answers t.linter.lanes.length asked started l := by
    have moved := answers.move? hy
    rwa [handed, taken] at moved
  cases deed with
  | trigger uri source force =>
    cases force with
    | false =>
      have mild : (Deed.trigger uri source false).IsMild := rfl
      exact unforced (by rw [forced?, hagenda])
        (answers.of_lanes_eq (Deed.stands_perform off mild).lanes)
    | true =>
      have forced : c.forced? = c.linter.handing? uri source true := by rw [forced?, hagenda]
      refine ⟨c.forced?.toList ++ asked, started, ?_, htaken, forced ▸ answers.trigger uri source true⟩
      show c.forced?.toList ++ c.asked = _
      rw [hasked, List.append_assoc]
  | drop uri => exact unforced (by rw [forced?, hagenda]) (moved (y := .drop uri) rfl rfl rfl)
  | retire uri => exact unforced (by rw [forced?, hagenda]) (moved (y := .retire uri) rfl rfl rfl)
  | clear uri => exact unforced (by rw [forced?, hagenda]) (moved (y := .clear uri) rfl rfl rfl)
  | reset => exact unforced (by rw [forced?, hagenda]) (moved (y := .reset) rfl rfl rfl)
  | lintProject =>
    exact unforced (by rw [forced?, hagenda])
      (answers.of_lanes_eq c.service.stands_lintProjectIfEnabled.lanes)
  | store | configure | refresh | send =>
    exact unforced (by rw [forced?, hagenda]) (answers.of_lanes_eq rfl)

theorem Accounts.step? (accounts : t.Accounts c) (off : c.service.settings.linter.run = .off)
    (hx : c.step? x = some d) : t.Accounts d := by
  obtain ⟨asked, started, hasked, htaken, answers⟩ := accounts
  cases x with
  | message m =>
    obtain ⟨-, ⟨agenda, -, rfl⟩ | ⟨noDeeds, rfl⟩⟩ := step?_message_eq_some hx
    · exact ⟨asked, started, hasked, htaken, answers⟩
    · exact ⟨asked, started, hasked, htaken, answers.of_lanes_eq (lanes_receive noDeeds)⟩
  | proceed => exact Accounts.proceed ⟨asked, started, hasked, htaken, answers⟩ off hx
  | labour y =>
    obtain ⟨l, hl, rfl⟩ := step?_labour_eq_some hx
    refine ⟨asked, (c.linter.taking? y).toList ++ started, hasked, ?_, answers.labour? hl⟩
    show (c.linter.taking? y).toList ++ c.taken = _
    rw [htaken, List.append_assoc]
  | elsewhere w =>
    obtain rfl := Option.some.inj hx
    exact ⟨asked, started, hasked, htaken, answers.of_lanes_eq rfl⟩

/-- Only the command to lint forces lints. -/
theorem exists_lintCommand_of_forced {s : Service} {ds : List Deed} {uri : Url} {source : LintSource}
    (deeds : s.deeds? m = some ds) (forced : .trigger uri source true ∈ ds) :
    ∃ p, m.lintCommand? = some p := by
  have unforced (documents : Documents) : .trigger uri source true ∉ Errand.relint documents := by
    simp [Errand.relint]
  unfold Service.deeds? at deeds
  split at deeds
  · next e he =>
    obtain rfl := Option.some.inj deeds
    cases e with
    | opened | saved | closed => simp [Errand.deeds] at forced
    | changed uri version changes =>
      rw [Errand.deeds] at forced
      split at forced <;> simp at forced
    | configured value =>
      rw [Errand.deeds] at forced
      split at forced
      · cases forced
      · by_cases renamed :
            (s.workspace.configure (s.configOf (s.settingsOf (some value)))).1
        · simp [renamed, unforced] at forced
        · simp [renamed, unforced] at forced
    | excluded id rule =>
      rw [Errand.deeds] at forced
      split at forced <;> simp [unforced] at forced
  · obtain ⟨p, command, -⟩ := Option.map_eq_some_iff.1 deeds
    exact ⟨p, command⟩

/-- Nothing is forced without the command to lint. -/
theorem asked_of_no_lintCommand (idle : c.agenda = []) (hd : c.follow? h = some d)
    (others : ∀ m ∈ h.filterMap Turn.message?, m.lintCommand? = none) : d.asked = c.asked := by
  let Unforced (e : Conversation) : Prop :=
    (∀ uri source, .trigger uri source true ∉ e.agenda) ∧ e.asked = c.asked
  have unforced : Unforced d := by
    refine follow?_preserves (Q := fun x => ∀ m, x.message? = some m → m.lintCommand? = none)
      (P := Unforced) ?_ (fun x hx m hm => others m (List.mem_filterMap.2 ⟨x, hx, hm⟩))
      ⟨by simp [idle], rfl⟩ hd
    rintro e x e' noLint ⟨unforced, same⟩ hx
    cases x with
    | message m =>
      obtain ⟨-, ⟨agenda, deeds, rfl⟩ | ⟨-, rfl⟩⟩ := step?_message_eq_some hx
      · refine ⟨fun uri source hforced => ?_, same⟩
        obtain ⟨p, command⟩ := exists_lintCommand_of_forced deeds hforced
        rw [noLint m rfl] at command
        cases command
      · exact ⟨unforced, same⟩
    | proceed =>
      obtain ⟨deed, agenda, hagenda, rfl⟩ := step?_proceed_eq_some hx
      rw [hagenda] at unforced
      refine ⟨fun uri source hforced => unforced uri source (.tail _ hforced), ?_⟩
      have unforced : e.forced? = none := by
        rw [forced?, hagenda]
        split
        · next uri source _ heq =>
          obtain ⟨rfl, -⟩ := List.cons.inj heq
          exact absurd (.head _) (unforced uri source)
        · rfl
      show e.forced?.toList ++ e.asked = c.asked
      rw [unforced]
      exact same
    | labour y =>
      obtain ⟨l, -, rfl⟩ := step?_labour_eq_some hx
      exact ⟨unforced, same⟩
    | elsewhere w =>
      obtain rfl := Option.some.inj hx
      exact ⟨unforced, same⟩
  exact unforced.2

/-- Once settings that turn linting off have been dealt with, and until settings are laid down again,
the lints that workers take of a document are some of those that the command to lint handed in since,
in their order; the lanes that were there take none, and without the command none is taken. -/
theorem taken_of_off (configured : Errand.of? m = some (.configured value))
    (off : ((Settings.ofJson? value).getD {}).linter.run = .off) (handled : c.Handles m t)
    (period : ∀ m ∈ h.filterMap Turn.message?, m.settings? = none) (hu : t.follow? h = some u) :
    ∃ asked started, u.asked = asked ++ t.asked ∧ u.taken = started ++ t.taken ∧
      (∀ uri, (lintsOf uri (started.map Prod.snd)).Sublist (lintsOf uri asked)) ∧
      (∀ p ∈ started, t.linter.lanes.length ≤ p.1) ∧
      ((∀ m ∈ h.filterMap Turn.message?, m.lintCommand? = none) → started = []) := by
  obtain ⟨idle, isOff, shut⟩ := shut_of_handles configured off handled
  let Quiet (e : Conversation) : Prop := e.Holds (·.linter.run = .off) ∧ t.Accounts e
  have quiet : Quiet u := by
    refine follow?_preserves (Q := fun x => ∀ m, x.message? = some m → m.settings? = none)
      (P := Quiet) ?_ (fun x hx m hm => period m (List.mem_filterMap.2 ⟨x, hx, hm⟩))
      ⟨⟨isOff, by simp [idle]⟩, [], [], rfl, rfl, shut.answers⟩ hu
    rintro e x e' unsettled ⟨holds, accounts⟩ hx
    refine ⟨holds.step? isLasting_off (fun m settings hm laid => ?_) hx, accounts.step? holds.now hx⟩
    rw [unsettled m hm] at laid
    cases laid
  obtain ⟨-, asked, started, hasked, htaken, answers⟩ := quiet
  refine ⟨asked, started, hasked, htaken, answers.sublist, answers.places, fun others => ?_⟩
  have nothing : asked = [] := by
    rw [asked_of_no_lintCommand idle hu others] at hasked
    exact List.self_eq_append_left.1 hasked
  refine List.eq_nil_iff_forall_not_mem.2 fun p hp => ?_
  have mem : p.2 ∈ lintsOf p.2.uri (started.map Prod.snd) :=
    List.mem_filter.2 ⟨List.mem_map.2 ⟨p, hp, rfl⟩, by simp⟩
  have asked := (answers.sublist p.2.uri).subset mem
  rw [nothing] at asked
  cases asked

/-- A document was opened and waits to be linted. -/
def waiting : Conversation where
  service := { linter := (Linter.eager {} [.plain]).opened Document.plain.uri }

/-- Settings that turn linting off. -/
def offSettings : Json := .object [("linter", .object [("run", .str "off")])]

/-- The message that turns linting off. -/
def turningOff : Message :=
  .notice "workspace/didChangeConfiguration" (.object [("settings", offSettings)])

/-- The command to lint all open documents. -/
def lintingAll : Message :=
  .request (.nat 1) "workspace/executeCommand" (.object [("command", .str "sqlfluff.lint")])

/-- The lint that waited when linting was turned off is not taken, and the one that the command hands
in afterwards is. -/
theorem taken_of_off_forced :
    ∃ t u started, waiting.Handles turningOff t ∧
      t.follow? [.message lintingAll, .proceed, .labour (.take 1), .proceed] = some u ∧
      u.taken = started ++ t.taken ∧ started = [(1, ⟨.plain, .file, true⟩)] ∧
      ∀ p ∈ started, t.linter.lanes.length ≤ p.1 := by
  have facts : ((waiting.follow? (.message turningOff :: List.replicate 4 .proceed)).bind fun t =>
      (t.follow? [.message lintingAll, .proceed, .labour (.take 1), .proceed]).map fun u =>
        (t.agenda.isEmpty, t.taken, u.taken)) =
      some (true, [], [(1, ⟨.plain, .file, true⟩)]) := by
    decide +kernel
  obtain ⟨t, ht, facts⟩ := Option.bind_eq_some_iff.1 facts
  obtain ⟨u, hu, facts⟩ := Option.map_eq_some_iff.1 facts
  simp only [Prod.mk.injEq, List.isEmpty_iff] at facts
  obtain ⟨idle, before, after⟩ := facts
  have handled : waiting.Handles turningOff t :=
    ⟨List.replicate 4 .proceed, by simp [Turn.message?], ht, idle⟩
  have period : ∀ m ∈ [Turn.message lintingAll, .proceed, .labour (.take 1), .proceed].filterMap
      Turn.message?, m.settings? = none := by
    intro m hm
    obtain rfl : m = lintingAll := by simpa [Turn.message?] using hm
    rfl
  have configured : Errand.of? turningOff = some (.configured offSettings) := rfl
  obtain ⟨asked, started, -, htaken, -, places, -⟩ :=
    taken_of_off configured (by decide +kernel) handled period hu
  refine ⟨t, u, started, handled, hu, htaken, ?_, places⟩
  rwa [after, before, List.append_nil, eq_comm] at htaken

end Conversation

end SqlLint
