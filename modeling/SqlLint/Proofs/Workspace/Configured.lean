import SqlLint.Proofs.Workspace.Formatting
import SqlLint.Workspace.Probe

/-!
# Who changes the configuration

Neither formatting nor a check of the setup changes the configuration, whatever the tool does
meanwhile and also when a document is saved on the way.
-/

namespace SqlLint

namespace Workspace

variable {w w' : Workspace}

theorem config_of_kept (h : w'.kept = w.kept) : w'.config = w.config :=
  congrArg (fun kept : (Config × Documents) × List Publication => kept.1.1) h

theorem config_complain (w : Workspace) (s : Settings) (text : String) :
    (w.complain s text).config = w.config :=
  config_of_kept (kept_complain w s text)

/-! ## Runs -/

theorem config_await (w : Workspace) (r : Running) : (w.await r).2.config = w.config := by
  unfold await
  split
  · next e machine _ => exact config_of_kept (kept_finish { w with machine } r e)
  · exact config_of_kept (kept_finish w r _)

theorem config_invoke {i : Invocation} {result : RunResult}
    (h : w.invoke i = .ok (result, w')) : w'.config = w.config := by
  unfold invoke at h
  cases begun : w.begin i with
  | error e =>
    rw [begun] at h
    cases h
  | ok p =>
    rw [begun] at h
    obtain ⟨ended | r, v⟩ := p
    · obtain ⟨-, rfl⟩ := Prod.mk.inj (Except.ok.inj h)
      exact config_of_kept (kept_begin begun)
    · have awaited : w' = (v.await r).2 := congrArg Prod.snd (Except.ok.inj h).symm
      rw [awaited, config_await]
      exact config_of_kept (kept_begin begun)

/-! ## Formatting -/

theorem config_formattable (w : Workspace) (uri : Url) :
    (w.formattable uri).2.config = w.config := by
  unfold formattable
  split
  · rfl
  · split
    · exact config_note w _
    · split <;> rfl

theorem config_reconcile (w : Workspace) (output : FixOutput) :
    (w.reconcile output).2.config = w.config := by
  cases output with
  | toolMissing => rfl
  | templatingErrors => rfl
  | fixed lines errorsRemain =>
    unfold reconcile
    dsimp only
    split
    · rfl
    · split
      · exact config_complain w _ _
      · rfl

theorem config_fixText (w : Workspace) (text path : String) :
    (w.fixText text path).2.config = w.config := by
  unfold fixText
  dsimp only
  split
  · rfl
  · next result v invoked =>
    split
    · exact (config_reconcile v _).trans (config_invoke invoked)
    · exact config_invoke invoked

theorem config_saved {d : Document} {path : String} (h : w.saved d path = .ok w') :
    w'.config = w.config := by
  unfold saved at h
  split at h
  · cases written : w.machine.files.write w.machine.directory path (Text.Utf8.encode d.text) with
    | error e =>
      rw [written] at h
      cases h
    | ok files =>
      rw [written] at h
      obtain rfl := Except.ok.inj h
      rfl
  · obtain rfl := Except.ok.inj h
    rfl

theorem config_fixFile (w : Workspace) (d : Document) (path diskPath : String) :
    (w.fixFile d path diskPath).2.config = w.config := by
  unfold fixFile
  dsimp only
  split
  · rfl
  · next v saved =>
    split
    · exact config_saved saved
    · next result u invoked =>
      have kept : u.config = w.config := (config_invoke invoked).trans (config_saved saved)
      split
      · exact kept
      · split
        · exact kept
        · exact (config_reconcile u _).trans kept

theorem config_formatDocument (w : Workspace) (uri : Url) :
    (w.formatDocument uri).2.config = w.config := by
  have asked := config_formattable w uri
  unfold formatDocument
  generalize w.formattable uri = outcome at asked ⊢
  obtain ⟨_ | _ | d, v⟩ := outcome
  · exact asked
  · exact asked
  · dsimp only
    split
    · exact asked
    · next path _ =>
      have noted : (v.note ["Format triggered for " ++ path]).config = w.config :=
        (config_note v _).trans asked
      split
      · exact (config_fixFile _ d path _).trans noted
      · exact (config_fixText _ d.text path).trans noted

theorem config_formatRange (w : Workspace) (uri : Url) (selection : Range) :
    (w.formatRange uri selection).2.config = w.config := by
  have asked := config_formattable w uri
  unfold formatRange
  generalize w.formattable uri = outcome at asked ⊢
  obtain ⟨_ | _ | d, v⟩ := outcome
  · exact asked
  · exact asked
  · dsimp only
    split
    · exact (config_note v _).trans asked
    · split
      · exact asked
      · next path _ =>
        have noted : (v.note [rangeNotice (d.wholeLines selection) path]).config = w.config :=
          (config_note v _).trans asked
        split
        · exact noted
        · exact (config_fixText _ _ path).trans noted

/-! ## Checks of the setup -/

theorem config_probe (w : Workspace) (program : String) (dir : Option String) :
    (w.probe program dir).2.config = w.config := by
  unfold probe
  dsimp only
  split <;> rfl

theorem config_refreshVersion (w : Workspace) : w.refreshVersion.config = w.config :=
  congrArg Prod.fst (given_refreshVersion w)

theorem config_record (w : Workspace) (c : Checkup) (check : Check) :
    (w.record c check).2.config = w.config :=
  config_note w _

theorem config_versionOf (w : Workspace) (name path : String) (dir : Option String) :
    (w.versionOf name path dir).2.config = w.config := by
  have first := config_probe w name dir
  unfold versionOf
  generalize w.probe name dir = answer at first ⊢
  obtain ⟨_ | version, v⟩ := answer
  · dsimp only
    split
    · exact first
    · have second := config_probe v path dir
      generalize v.probe path dir = answer at second ⊢
      obtain ⟨_ | version, u⟩ := answer
      · exact second.trans first
      · exact second.trans first
  · exact first

theorem config_checkTool (w : Workspace) (c : Checkup) (dir : Option String) :
    (w.checkTool c dir).2.config = w.config := by
  unfold checkTool
  dsimp only
  split
  · exact config_record w c _
  · rw [config_record, config_versionOf, config_record]

theorem config_check (w : Workspace) : w.check.2.config = w.config := by
  unfold check
  dsimp only
  split
  · rw [config_note, config_checkTool, config_record, config_note]
  · rw [config_note, config_record, config_note]

end Workspace

end SqlLint
