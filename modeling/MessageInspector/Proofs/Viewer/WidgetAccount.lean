import MessageInspector.Proofs.Viewer.StaleAnswers
/-!
# The widgets of a dialog

Every preview that is mounted becomes a widget with a number of its own. The pane gives the numbers out
in order, and of the widgets it has mounted it keeps the last one at most and has disposed of all others:
none is lost, none stands behind another, and no number comes back.
-/
namespace MessageInspector

namespace Preview.Pane
variable {pane : Pane} {widgets : List Nat}

@[simp] theorem lastWidget_dispose (pane : Pane) : pane.dispose.lastWidget = pane.lastWidget := by
  rw [dispose]
  split <;> rfl

theorem disposed_dispose (pane : Pane) :
    pane.dispose.disposed = pane.disposed + if pane.mounted.isSome then 1 else 0 := by
  cases h : pane.mounted <;> simp [dispose, h]

/-- These widgets, in this order, are all that the pane has ever mounted. -/
structure Accounts (pane : Pane) (widgets : List Nat) : Prop where
  numbered : widgets = List.range' 1 pane.lastWidget
  /-- Each of them is disposed of, or still mounted. -/
  kept : pane.lastWidget = pane.disposed + if pane.mounted.isSome then 1 else 0
  newest : ∀ mounted, pane.mounted = some mounted → mounted.widget = pane.lastWidget

namespace Accounts

theorem empty : Pane.empty.Accounts [] := ⟨rfl, rfl, nofun⟩

theorem dispose (h : pane.Accounts widgets) : pane.dispose.Accounts widgets where
  numbered := by
    rw [lastWidget_dispose]
    exact h.numbered
  kept := by
    rw [lastWidget_dispose, disposed_dispose, mounted_dispose]
    exact h.kept
  newest := by simp [mounted_dispose]

theorem mount (h : pane.Accounts widgets) (preview : ContentPreview) :
    (pane.mount preview).Accounts (widgets ++ [pane.nextWidget]) where
  numbered := by
    rw [h.numbered, Pane.mount, nextWidget, List.range'_concat]
    simp [Nat.add_comm]
  kept := by
    have hkept := h.dispose.kept
    rw [lastWidget_dispose, mounted_dispose] at hkept
    exact congrArg (· + 1) hkept
  newest := by
    intro mounted hmounted
    cases hmounted
    rfl

theorem length_eq (h : pane.Accounts widgets) : widgets.length = pane.lastWidget := by
  rw [h.numbered, List.length_range']

theorem increasing (h : pane.Accounts widgets) : widgets.Pairwise (· < ·) := by
  rw [h.numbered]
  exact List.pairwise_lt_range' 1

theorem getLast_eq (h : pane.Accounts widgets) {mounted : Mounted}
    (hmounted : pane.mounted = some mounted) : widgets.getLast? = some mounted.widget := by
  have hkept := h.kept
  rw [hmounted] at hkept
  have hpos : pane.lastWidget ≠ 0 := by
    rw [hkept]
    simp
  rw [h.numbered, List.getLast?_range', if_neg hpos, h.newest mounted hmounted, Nat.add_sub_cancel_left]

end Accounts
end Preview.Pane

namespace Dialog
variable {console : Console} {v : Viewer} {d : Dialog} {widgets : List Nat}

def Reply.widget? : Reply → Option Nat
  | .preview (.mounted widget) => some widget
  | _ => none

theorem accounts_completePreview (h : v.pane.Accounts widgets) (request : PreviewRequest)
    (answer : Except ApiError ContentPayload) :
    (v.completePreview console request answer).viewer.pane.Accounts
      (widgets ++
        (Reply.preview (v.completePreview console request answer).result).widget?.toList) := by
  by_cases current : v.isCurrent request.token = true
  · cases hpreview : console.previewOf request answer with
    | some preview =>
      obtain ⟨hresult, hviewer⟩ := Viewer.completePreview_mounts current hpreview
      rw [hresult, hviewer]
      exact h.mount preview
    | none =>
      obtain ⟨hresult, hviewer⟩ := Viewer.completePreview_disposes current hpreview
      rw [hresult, hviewer]
      simpa [Reply.widget?] using h.dispose
  · rw [Viewer.completePreview_stale current]
    simpa [Reply.widget?] using h

theorem accounts_step (console : Console) (h : d.viewer.pane.Accounts widgets) (action : Action) :
    (step console d action).1.viewer.pane.Accounts
      (widgets ++ (step console d action).2.1.widget?.toList) := by
  have turn := turn_step console d action
  generalize (step console d action).1 = after, (step console d action).2.1 = reply,
    (step console d action).2.2 = reports at turn ⊢
  cases turn with
  | completePreview answer found => exact accounts_completePreview h _ answer
  | begin object reference =>
    simp only [Reply.widget?, Option.toList_none, List.append_nil]
    exact h.dispose
  | completeInfo answer found =>
    simp only [Reply.widget?, Option.toList_none, List.append_nil, Viewer.pane_completeInfo]
    exact h
  | hide | noShow answer absent | noPreview answer absent =>
    simp only [Reply.widget?, Option.toList_none, List.append_nil]
    exact h

theorem accounts_run (console : Console) (h : d.viewer.pane.Accounts widgets)
    (actions : List Action) :
    (run console d actions).1.viewer.pane.Accounts
      (widgets ++ (run console d actions).2.filterMap Reply.widget?) := by
  -- The first action adds its widget to those mounted before, so these have to vary.
  induction actions generalizing d widgets with
  | nil => simpa [run] using h
  | cons action rest ih =>
    have hrest := ih (accounts_step console h action)
    simp only [run]
    cases hwidget : (step console d action).2.1.widget? <;> simpa [hwidget] using hrest

def mountedWidgets (console : Console) (actions : List Action) : List Nat :=
  (run console initial actions).2.filterMap Reply.widget?

theorem accounts_reached (console : Console) (actions : List Action) :
    (reached console actions).viewer.pane.Accounts (mountedWidgets console actions) := by
  have hinitial : initial.viewer.pane.Accounts [] := .empty
  exact accounts_run console hinitial actions

theorem length_replies (console : Console) (d : Dialog) (actions : List Action) :
    (run console d actions).2.length = actions.length := by
  induction actions generalizing d with
  | nil => rfl
  | cons action rest ih => simp [run, ih]

/-- How a dialog keeps its widgets in a run. -/
structure KeepsWidgets (console : Console) (actions : List Action) : Prop where
  /-- All widgets were disposed of, apart from the one that is mounted. -/
  settled : (mountedWidgets console actions).length = (reached console actions).viewer.pane.disposed +
    if (reached console actions).viewer.pane.mounted.isSome then 1 else 0
  /-- No number is given out twice. -/
  increasing : (mountedWidgets console actions).Pairwise (· < ·)
  /-- The mounted preview is the widget that was mounted last. -/
  newest : ∀ mounted, (reached console actions).viewer.pane.mounted = some mounted →
    (mountedWidgets console actions).getLast? = some mounted.widget
  /-- No counter gets ahead of the actions, so that 64 bits hold each of them in a run of fewer than
  2 ^ 64 actions. -/
  bounded : (reached console actions).viewer.latest ≤ actions.length ∧
    (reached console actions).viewer.pane.lastWidget ≤ actions.length ∧
    (reached console actions).viewer.pane.disposed ≤ actions.length

/-- In every run, whatever requests are answered and how often, no widget is lost, none is stacked on
another and no number is used again. -/
theorem run_keepsWidgets (console : Console) (actions : List Action) :
    KeepsWidgets console actions := by
  have accounts := accounts_reached console actions
  have hlast : (reached console actions).viewer.pane.lastWidget ≤ actions.length := by
    rw [← accounts.length_eq, ← length_replies console initial actions]
    exact List.length_filterMap_le _ _
  constructor
  · rw [accounts.length_eq]
    exact accounts.kept
  · exact accounts.increasing
  · intro mounted hmounted
    exact accounts.getLast_eq hmounted
  · refine ⟨?_, hlast, ?_⟩
    · rw [latest_reached]
      exact List.countP_le_length
    · have hkept := accounts.kept
      omega

/-- A request for content is answered twice, then a next show begins and a late answer comes in. -/
example :
    let console : Console := ⟨Present.Presenter.standard, fun _ _ => ""⟩
    let queue := ManagedObject.queue "node" "host" "q"
    let info : MessageInfo := ⟨⟨⟨"1"⟩, 2, some "text/plain"⟩, .ofList [("id", .number (.int 1))]⟩
    let content : ContentPayload := ⟨Utf8.ofString "hi", none⟩
    let actions : List Action :=
      [.begin queue ⟨⟨"1"⟩, 0, none⟩, .completeInfo 0 (.ok ⟨info, .headersIncluded⟩),
        .completePreview 0 (.ok content), .completePreview 0 (.ok content),
        .begin queue ⟨⟨"2"⟩, 0, none⟩, .completePreview 0 (.ok content)]
    mountedWidgets console actions = [1, 2] ∧
      (reached console actions).viewer.pane = ⟨none, 2, 2⟩ := by decide +kernel

end Dialog
end MessageInspector
