import MessageInspector.Proofs.Preview.Notices
import MessageInspector.Proofs.Viewer.NewestShow
/-!
# The pane agrees with its dialog

What a preview shows is announced with the message info: the dialog opens with a plan and a notice,
and the content comes later, if it comes at all. Whatever happens in between, a mounted preview
keeps to what the dialog on the screen announces.
-/
namespace MessageInspector

namespace Present
variable {p : Presenter} {info : MessageInfo} {mimeType : String} {raw : List UInt8}
  {body : DecodedBody}

/-- A model announces a preview if its plan has these values and the preview keeps to them. -/
structure Model.Announces (model : Model) (preview : Preview.ContentPreview) (mimeType : String)
    (limit size : Nat) (text : String) : Prop where
  plan : model.preview = .pending mimeType limit size text
  totalBytes : preview.totalBytes = size
  shownBytes : preview.shownBytes = min limit size
  truncated : preview.truncated = true ↔ limit < size
  notice : preview.notice = text
  plainText : preview.kind = .plainText → ∃ area, preview.widget = .text area
  itemList : preview.kind = .itemList →
    mimeType = "amqp/list" ∧ ∃ items, preview.widget = .table (.ofItems items)
  keyValueTable : preview.kind = .keyValueTable →
    (mimeType = "amqp/map" ∨ mimeType = "jms/map-message") ∧
      ∃ entries, preview.widget = .table (.ofEntries entries)

theorem Presenter.plan_of_previewable (typed : info.mimeType = some mimeType)
    (previewable : Content.isPreviewable (some mimeType) = true) :
    p.plan info = .pending mimeType p.previewLimit info.sizeBytes
      (Preview.notice p.previewLimit info.sizeBytes) := by
  simp only [plan, typed, if_pos previewable]

theorem Presenter.announces_build (p : Presenter) (typed : info.mimeType = some mimeType)
    (decoded : Content.decodeOrText mimeType raw = .ok body) (downloadUrl : MessageId → String) :
    (p.build info true downloadUrl).Announces (p.preview body p.previewLimit info.sizeBytes) mimeType
      p.previewLimit info.sizeBytes (Preview.notice p.previewLimit info.sizeBytes) where
  plan := plan_of_previewable typed (Content.previewable_of_decodeOrText decoded)
  totalBytes := rfl
  shownBytes := Nat.min_comm _ _
  truncated := Preview.ContentPreview.truncated_ofBody _ _ _ _
  notice := Preview.ContentPreview.notice_ofBody _ _ _ _
  plainText := by
    intro hkind
    cases body with
    | plainText text => exact ⟨_, rfl⟩
    | itemList items => cases hkind
    | keyValueTable entries => cases hkind
  itemList := by
    intro hkind
    cases body with
    | plainText text => cases hkind
    | itemList items => exact ⟨Content.eq_listType_of_items decoded, items, rfl⟩
    | keyValueTable entries => cases hkind
  keyValueTable := by
    intro hkind
    cases body with
    | plainText text => cases hkind
    | itemList items => cases hkind
    | keyValueTable entries => exact ⟨Content.eq_mapType_of_entries decoded, entries, rfl⟩

end Present

namespace SharedViewer
variable {console : Console} {actions : List Action} {mounted : Preview.Mounted}

theorem newest_of_mounted (h : (reached console actions).viewer.pane.mounted = some mounted) :
    ∃ before object reference info mimeType payload body,
      begun actions = before ++ [(object, reference)] ∧
      (infoExchanges console actions before.length).getLast? =
        some ⟨⟨object, reference.id, .headersIncluded⟩, .ok info⟩ ∧
      (reached console actions).viewer.model =
        some (console.presenter.build info true (fun id => console.downloadUrl object (.full id))) ∧
      info.mimeType = some mimeType ∧
      contentExchanges console actions before.length =
        [⟨⟨object, info.id, mimeType, console.presenter.previewLimit⟩, .ok payload⟩] ∧
      Content.decodeOrText mimeType (payload.bytes.take console.presenter.previewLimit) = .ok body ∧
      mounted.preview =
        console.presenter.preview body console.presenter.previewLimit info.sizeBytes := by
  rcases empty_or_newest console actions with
    ⟨-, -, -, -, hnone⟩ | ⟨before, shown, hbegun, -, -, presents⟩
  · rw [hnone] at h
    cases h
  · obtain ⟨info, mimeType, payload, body, hpreview⟩ := preview_newest presents h
    exact ⟨before, _, _, info, mimeType, payload, body, hbegun, hpreview⟩

/-- In every run, however its steps interleave, a mounted preview is the one that the model on the
screen announces. -/
theorem run_keepsAnnouncement (console : Console) (actions : List Action)
    (h : (reached console actions).viewer.pane.mounted = some mounted) :
    ∃ model mimeType limit size text, (reached console actions).viewer.model = some model ∧
      model.Announces mounted.preview mimeType limit size text := by
  obtain ⟨before, object, reference, info, mimeType, payload, body, -, -, hmodel, typed, -, decoded,
    hpreview⟩ := newest_of_mounted h
  have announced := console.presenter.announces_build typed decoded
    (fun id => console.downloadUrl object (.full id))
  rw [← hpreview] at announced
  exact ⟨_, _, _, _, _, hmodel, announced⟩

theorem run_keepsAnnouncement_of_overtaking :
    let console : Console := ⟨Present.Presenter.standard.withPreviewLimit 3, fun _ _ => ""⟩
    let queue := ManagedObject.queue "node" "host" "q"
    let text : MessageInfo := ⟨⟨⟨"1"⟩, 2, some "text/plain"⟩, .ofList [("id", .number (.int 1))]⟩
    let list : MessageInfo := ⟨⟨⟨"2"⟩, 9, some "amqp/list"⟩, .ofList [("id", .number (.int 2))]⟩
    let actions : List Action :=
      [.begin queue ⟨⟨"1"⟩, 0, none⟩, .requestInfo 0, .begin queue ⟨⟨"2"⟩, 0, none⟩, .requestInfo 1,
        .answerInfo 1 (.ok list), .completeInfo 1, .answerInfo 0 (.ok text), .completeInfo 0,
        .answerContent 1 (.ok ⟨Utf8.ofString "[7]      ", some 9⟩), .completePreview 1]
    let mounted : Preview.Mounted := ⟨1, .ofBody (.itemList [(0, "7")]) 3 9 4⟩
    (reached console actions).viewer.pane.mounted = some mounted ∧
      ∃ model mimeType limit size text, (reached console actions).viewer.model = some model ∧
        model.Announces mounted.preview mimeType limit size text := by
  intro console queue text list actions mounted
  have hmounted : (reached console actions).viewer.pane.mounted = some mounted := by decide +kernel
  exact ⟨hmounted, run_keepsAnnouncement console actions hmounted⟩

end SharedViewer
end MessageInspector
