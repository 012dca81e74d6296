import MessageInspector.Proofs.Settings.Documents
import MessageInspector.Proofs.Settings.Ranges
import MessageInspector.Settings.Store
/-!
# Saved settings come back

What the store holds after a save is the document that was saved, and neither loading nor a save
that fails changes it. So the next load returns what was saved last, whatever happened before.
-/
namespace MessageInspector.SettingsStore
open Settings
variable {store : SettingsStore} {action : Action}

inductive Action.Saves : Action → Prop
  | save (settings : Settings) : Saves (.save settings)
  | saveRefused (settings : Settings) (refused : SaveStep) : Saves (.saveRefused settings refused)

/-- A load, or a save that failed. -/
inductive Quiet : Action → Reply → Prop
  | load (environment : Environment) (reply : Reply) : Quiet (.load environment) reply
  | failedSave {action : Action} (error : SettingsError) : action.Saves →
      Quiet action (.failed error)

/-- Nothing is found that could be read as settings. -/
inductive Unreadable : SettingsStore → Prop
  | missing : Unreadable .missing
  | directoryBlocked : Unreadable .directoryBlocked
  | fileBlocked : Unreadable .fileBlocked
  | noText {bytes} : Utf8.decode? bytes = none → Unreadable (.file bytes)
  | noDocument {bytes text fault} : Utf8.decode? bytes = some text →
      Settings.ofText text = .error fault → Unreadable (.file bytes)

theorem store_of_saved {c : Settings} (h : (store.step (.save c)).2 = .saved) :
    (store.step (.save c)).1 = .file (Utf8.ofString c.document) := by
  cases store with
  | missing => rfl
  | file bytes => rfl
  | directoryBlocked => cases h
  | fileBlocked => cases h

theorem store_of_failed (hsaves : action.Saves) {error : SettingsError}
    (h : (store.step action).2 = .failed error) : (store.step action).1 = store := by
  cases hsaves with
  | saveRefused settings refused => rfl
  | save settings =>
    cases store with
    | missing => cases h
    | file bytes => cases h
    | directoryBlocked => rfl
    | fileBlocked => rfl

theorem step_of_quiet (h : Quiet action (store.step action).2) : (store.step action).1 = store := by
  generalize hreply : (store.step action).2 = reply at h
  cases h with
  | load environment => rfl
  | failedSave error hsaves => exact store_of_failed hsaves hreply

theorem run_of_quiet {actions : List Action}
    (h : ∀ x ∈ actions.zip (store.run actions).2, Quiet x.1 x.2) :
    (store.run actions).1 = store := by
  induction actions generalizing store with
  | nil => rfl
  | cons action rest ih =>
    simp only [run, List.zip_cons_cons, List.forall_mem_cons] at h ⊢
    have hstep := step_of_quiet h.1
    rw [hstep] at h ⊢
    exact ih h.2

theorem load_document {c : Settings} (h : c.Representable) :
    load (.file (Utf8.ofString c.document)) noVariables = (c.clamped, false) := by
  have hdocument : document (.file (Utf8.ofString c.document)) = (c.clamped, false) := by
    simp only [document, text?, Utf8.decode?_ofString, ofText_document h]
  rw [load, hdocument, withEnvironment_noVariables, clamped_clamped]

theorem document_of_unreadable (h : Unreadable store) : store.document.1 = .default := by
  cases h with
  | missing => rfl
  | directoryBlocked => rfl
  | fileBlocked => rfl
  | noText hbytes => simp only [document, text?, hbytes]
  | noDocument hbytes htext => simp only [document, text?, hbytes, htext]

/-- Wherever a run leads: settings that are saved there are loaded again, in range, after loads and
failed saves; no later run can tell whether a failed save took place; loading leaves the store as it
is; and the defaults are loaded where no settings can be read. -/
theorem run_keepsSaved (start : SettingsStore) (earlier : List Action) :
    let store := (start.run earlier).1
    (∀ c : Settings, c.Representable → (store.step (.save c)).2 = .saved → ∀ between,
      let saved := (store.step (.save c)).1
      (∀ x ∈ between.zip (saved.run between).2, Quiet x.1 x.2) →
        ((saved.run between).1.step (.load noVariables)).2 = .loaded c.clamped false ∧
          (c.InRange → c.clamped = c)) ∧
    (∀ action error, Action.Saves action → (store.step action).2 = .failed error → ∀ later,
      (store.step action).1.run later = store.run later) ∧
    (∀ environment, (store.step (.load environment)).1 = store) ∧
    (Unreadable store → ∀ environment, ∃ ignored,
      (store.step (.load environment)).2 =
        .loaded (Settings.default.withEnvironment environment) ignored) ∧
    Settings.default.withEnvironment noVariables = .default := by
  intro store
  refine ⟨?_, ?_, fun _ => rfl, ?_, ?_⟩
  · intro c hc hsave between saved hquiet
    have hsaved : saved = .file (Utf8.ofString c.document) := store_of_saved hsave
    refine ⟨?_, clamped_of_inRange⟩
    rw [run_of_quiet hquiet, hsaved, step, load_document hc]
  · intro action error hsaves hfailed later
    rw [store_of_failed hsaves hfailed]
  · intro h environment
    exact ⟨store.document.2, by rw [step, load, document_of_unreadable h]⟩
  · rw [withEnvironment_noVariables, clamped_of_inRange inRange_default]

theorem run_keepsSaved_of_failures :
    let c : Settings := ⟨0, "\"\\\n\u0001é", -2147483648, 4294967295⟩
    let earlier : List Action := [.blockFile, .save .default, .delete]
    let store := (run .missing earlier).1
    let saved := (store.step (.save c)).1
    let between : List Action :=
      [.load noVariables, .saveRefused .default .writeFile, .load noVariables]
    let blocked := (run .missing [.blockDirectory]).1
    let broken := (run .missing [.write [0xFF]]).1
    (c.Representable ∧ (store.step (.save c)).2 = .saved ∧
      (∀ x ∈ between.zip (saved.run between).2, Quiet x.1 x.2) ∧
      ((saved.run between).1.step (.load noVariables)).2 = .loaded c.clamped false ∧
      (c.InRange → c.clamped = c)) ∧
    (Action.Saves (.save c) ∧ (blocked.step (.save c)).2 = .failed .noDirectory ∧
      ∀ later, (blocked.step (.save c)).1.run later = blocked.run later) ∧
    Unreadable broken ∧ ∃ ignored, (broken.step (.load noVariables)).2 =
      .loaded (Settings.default.withEnvironment noVariables) ignored := by
  intro c earlier store saved between blocked broken
  have hc : c.Representable := ⟨by decide, by decide, by decide⟩
  have hsave : (store.step (.save c)).2 = .saved := rfl
  have hreplies : between.zip (saved.run between).2 =
      [(.load noVariables, _), (.saveRefused .default .writeFile, .failed .notWritten),
        (.load noVariables, _)] := rfl
  have hquiet : ∀ x ∈ between.zip (saved.run between).2, Quiet x.1 x.2 := by
    rw [hreplies]
    simp only [List.forall_mem_cons]
    exact ⟨.load _ _, .failedSave _ (.saveRefused _ _), .load _ _, nofun⟩
  have hblocked : (blocked.step (.save c)).2 = .failed .noDirectory := rfl
  have hbroken : Unreadable broken := .noText (by decide +kernel)
  have hstore := run_keepsSaved .missing earlier
  have hcannot := run_keepsSaved .missing [.blockDirectory]
  have hnothing := run_keepsSaved .missing [.write [0xFF]]
  exact ⟨⟨hc, hsave, hquiet, hstore.1 c hc hsave between hquiet⟩,
    ⟨.save c, hblocked, hcannot.2.1 _ _ (.save c) hblocked⟩,
    hbroken, hnothing.2.2.2.1 hbroken noVariables⟩

end MessageInspector.SettingsStore
