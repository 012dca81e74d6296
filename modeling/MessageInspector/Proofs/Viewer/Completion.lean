import MessageInspector.Viewer.Basic
/-!
# Completions

What an answer does to a viewer. It counts as long as its request holds the token drawn last, and no
answer draws a token itself. Message info brings a model with its slots or hides the dialog; content
only matters to the pane.
-/
namespace MessageInspector

theorem Preview.Pane.mounted_dispose (pane : Preview.Pane) : pane.dispose.mounted = none := by
  rw [dispose]
  split
  · rfl
  · assumption

def Console.previewOf (console : Console) (request : PreviewRequest)
    (answer : Except ApiError ContentPayload) : Option Preview.ContentPreview :=
  match answer with
  | .error _ => none
  | .ok payload =>
    match Content.decodeOrText request.mimeType payload.bytes with
    | .error _ => none
    | .ok body => some (console.presenter.preview body request.limit request.totalBytes)

theorem Console.previewOf_eq_some {console : Console} {request : PreviewRequest}
    {answer : Except ApiError ContentPayload} {preview : Preview.ContentPreview}
    (h : console.previewOf request answer = some preview) :
    ∃ payload body, answer = .ok payload ∧
      Content.decodeOrText request.mimeType payload.bytes = .ok body ∧
      preview = console.presenter.preview body request.limit request.totalBytes := by
  cases answer with
  | error e => cases h
  | ok payload =>
    cases hbody : Content.decodeOrText request.mimeType payload.bytes with
    | error e => simp [previewOf, hbody] at h
    | ok body =>
      simp only [previewOf, hbody, Option.some.injEq] at h
      exact ⟨payload, body, rfl, hbody, h.symm⟩

namespace Viewer
variable {console : Console} {v : Viewer}

theorem latest_completeInfo (console : Console) (v : Viewer) (request : ShowRequest)
    (answer : Except ApiError FetchedInfo) :
    (v.completeInfo console request answer).viewer.latest = v.latest := by
  simp only [completeInfo]
  split
  · cases answer <;> rfl
  · rfl

theorem pane_completeInfo (console : Console) (v : Viewer) (request : ShowRequest)
    (answer : Except ApiError FetchedInfo) :
    (v.completeInfo console request answer).viewer.pane = v.pane := by
  simp only [completeInfo]
  split
  · cases answer <;> rfl
  · rfl

theorem completePreview_pane (console : Console) (v : Viewer) (request : PreviewRequest)
    (answer : Except ApiError ContentPayload) :
    ∃ pane, (v.completePreview console request answer).viewer = { v with pane := pane } := by
  simp only [completePreview]
  split
  · cases answer with
    | error e => exact ⟨_, rfl⟩
    | ok payload =>
      simp only
      split <;> exact ⟨_, rfl⟩
  · exact ⟨v.pane, rfl⟩

theorem latest_completePreview (console : Console) (v : Viewer) (request : PreviewRequest)
    (answer : Except ApiError ContentPayload) :
    (v.completePreview console request answer).viewer.latest = v.latest := by
  obtain ⟨pane, hpane⟩ := completePreview_pane console v request answer
  rw [hpane]

theorem completeInfo_stale {request : ShowRequest} (stale : ¬ v.isCurrent request.token = true)
    (answer : Except ApiError FetchedInfo) :
    v.completeInfo console request answer =
      ⟨v, .stale, [.staleInfo request.reference.id request.token]⟩ := by
  simp only [completeInfo, if_neg stale]

theorem completeInfo_error {request : ShowRequest} (current : v.isCurrent request.token = true)
    (e : ApiError) :
    v.completeInfo console request (.error e) =
      ⟨{ v with phase := .hidden }, .failed ⟨request.reference.id, e⟩, []⟩ := by
  simp only [completeInfo, if_pos current]

theorem completeInfo_ok {request : ShowRequest} (current : v.isCurrent request.token = true)
    (fetched : FetchedInfo) :
    v.completeInfo console request (.ok fetched) =
      { viewer :=
          { v with
            phase := .shown
            model := some (modelOf console request fetched)
            populated := (modelOf console request fetched).fields.map (·.slot) }
        result := .shown (previewRequest request (modelOf console request fetched))
        reports := [] } := by
  simp only [completeInfo, if_pos current]

theorem completePreview_stale {request : PreviewRequest} (stale : ¬ v.isCurrent request.token = true)
    (answer : Except ApiError ContentPayload) :
    v.completePreview console request answer =
      ⟨v, .stale, [.stalePreview request.messageId request.token]⟩ := by
  simp only [completePreview, if_neg stale]

theorem completePreview_mounts {request : PreviewRequest}
    (current : v.isCurrent request.token = true) {answer : Except ApiError ContentPayload}
    {preview : Preview.ContentPreview} (h : console.previewOf request answer = some preview) :
    (v.completePreview console request answer).result = .mounted v.pane.nextWidget ∧
      (v.completePreview console request answer).viewer =
        { v with pane := v.pane.mount preview } := by
  obtain ⟨payload, body, rfl, hbody, rfl⟩ := Console.previewOf_eq_some h
  simp only [completePreview, if_pos current, hbody, and_self]

theorem completePreview_disposes {request : PreviewRequest}
    (current : v.isCurrent request.token = true) {answer : Except ApiError ContentPayload}
    (h : console.previewOf request answer = none) :
    (v.completePreview console request answer).result = .unavailable ∧
      (v.completePreview console request answer).viewer = { v with pane := v.pane.dispose } := by
  cases answer with
  | error e => simp only [completePreview, if_pos current, withoutPreview, and_self]
  | ok payload =>
    cases hbody : Content.decodeOrText request.mimeType payload.bytes with
    | error e => simp only [completePreview, if_pos current, hbody, withoutPreview, and_self]
    | ok body => simp [Console.previewOf, hbody] at h

/-- An answer that counts puts its preview into the pane, and clears the pane if it yields none. -/
theorem completePreview_current (console : Console) {request : PreviewRequest}
    (current : v.isCurrent request.token = true) (answer : Except ApiError ContentPayload) :
    (v.completePreview console request answer).result =
        (if (console.previewOf request answer).isSome then .mounted v.pane.nextWidget
          else .unavailable) ∧
      (v.completePreview console request answer).viewer.pane.mounted.map (·.preview) =
        console.previewOf request answer := by
  cases h : console.previewOf request answer with
  | none =>
    obtain ⟨hresult, hviewer⟩ := completePreview_disposes current h
    simp [hresult, hviewer, v.pane.mounted_dispose]
  | some preview =>
    obtain ⟨hresult, hviewer⟩ := completePreview_mounts current h
    simp [hresult, hviewer, Preview.Pane.mount]

theorem completeInfo_eq_stale_iff (request : ShowRequest) (answer : Except ApiError FetchedInfo) :
    (v.completeInfo console request answer).result = .stale ↔ ¬ v.isCurrent request.token = true := by
  constructor
  · intro h current
    cases answer with
    | error e =>
      rw [completeInfo_error current] at h
      cases h
    | ok fetched =>
      rw [completeInfo_ok current] at h
      cases h
  · intro stale
    rw [completeInfo_stale stale]

theorem completePreview_eq_stale_iff (request : PreviewRequest)
    (answer : Except ApiError ContentPayload) :
    (v.completePreview console request answer).result = .stale ↔
      ¬ v.isCurrent request.token = true := by
  constructor
  · intro h current
    rw [(completePreview_current console current answer).1] at h
    split at h <;> cases h
  · intro stale
    rw [completePreview_stale stale]

theorem mounted_completePreview {request : PreviewRequest}
    (current : v.isCurrent request.token = true) {answer : Except ApiError ContentPayload}
    {mounted : Preview.Mounted}
    (h : (v.completePreview console request answer).viewer.pane.mounted = some mounted) :
    ∃ payload body, answer = .ok payload ∧
      Content.decodeOrText request.mimeType payload.bytes = .ok body ∧
      mounted.preview = console.presenter.preview body request.limit request.totalBytes := by
  have hpreview := (completePreview_current console current answer).2
  rw [h] at hpreview
  exact Console.previewOf_eq_some hpreview.symm

theorem previewRequest_eq_some {request : ShowRequest} {fetched : FetchedInfo}
    {preview : PreviewRequest} :
    previewRequest request (modelOf console request fetched) = some preview ↔
      fetched.includesConfidential = true ∧ Content.isPreviewable fetched.info.mimeType = true ∧
        fetched.info.mimeType = some preview.mimeType ∧
        preview = ⟨request.token, request.object, fetched.info.id, preview.mimeType,
          console.presenter.previewLimit, fetched.info.sizeBytes⟩ := by
  cases hc : fetched.includesConfidential with
  | false => simp [modelOf, Present.Presenter.build, previewRequest, hc]
  | true =>
    cases hm : fetched.info.mimeType with
    | none =>
      simp [modelOf, Present.Presenter.build, previewRequest, hc, hm, Present.Presenter.plan]
    | some mimeType =>
      by_cases hp : Content.isPreviewable (some mimeType) = true
      · simp only [modelOf, Present.Presenter.build, previewRequest, hc, hm, if_pos,
          Present.Presenter.plan, Option.some.injEq, true_and, hp]
        constructor
        · rintro rfl
          exact ⟨rfl, rfl⟩
        · rintro ⟨rfl, h⟩
          exact h.symm
      · simp [modelOf, Present.Presenter.build, previewRequest, hc, hm, Present.Presenter.plan, hp]

end Viewer
end MessageInspector
