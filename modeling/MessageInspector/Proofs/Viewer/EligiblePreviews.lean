import MessageInspector.Proofs.Content.Decoding
import MessageInspector.Proofs.Viewer.DialogHistory
/-!
# Eligible previews

Which content types get a preview is decided twice: when the preview is planned, and when its content
is decoded. The two agree on every type. So whatever content arrives for a planned preview can be shown,
and the pane only stays empty if no content arrives.
-/
namespace MessageInspector

namespace Content

/-- A body can be shown exactly if its type gets a preview: as what its type says if it is that, and as
text otherwise. -/
structure DecodesIfEligible (mimeType : String) (raw : List UInt8) : Prop where
  eligible : (∃ body, decodeOrText mimeType raw = .ok body) ↔ isPreviewable (some mimeType) = true
  refused : ∀ e, decodeOrText mimeType raw = .error e ↔
    isPreviewable (some mimeType) = false ∧ e = .unsupported mimeType
  decoded : ∀ body, decode mimeType raw = .ok body → decodeOrText mimeType raw = .ok body
  asText : isPreviewable (some mimeType) = true → ∀ e, decode mimeType raw = .error e →
    decodeOrText mimeType raw = decode "text/plain" raw

theorem decodesIfEligible (mimeType : String) (raw : List UInt8) : DecodesIfEligible mimeType raw where
  eligible := by
    constructor
    · rintro ⟨body, h⟩
      exact previewable_of_decodeOrText h
    · intro h
      exact decodeOrText_isOk h raw
  refused := by
    intro e
    by_cases h : isPreviewable (some mimeType) = true
    · obtain ⟨body, hbody⟩ := decodeOrText_isOk h raw
      simp [hbody, h]
    · rw [decodeOrText, decode_of_not_previewable h]
      simp [h, eq_comm]
  decoded := fun body h => decodeOrText_of_ok h
  asText := by
    intro h e he
    have htext : isText "text/plain" = true := by decide +kernel
    rw [decodeOrText_of_error h he, decode, if_pos htext]

end Content

theorem Console.previewOf_eq_none_iff {console : Console} {request : PreviewRequest}
    (eligible : Content.isPreviewable (some request.mimeType) = true)
    (answer : Except ApiError ContentPayload) :
    console.previewOf request answer = none ↔ ∃ e, answer = .error e := by
  cases answer with
  | error e => simp [previewOf]
  | ok payload =>
    obtain ⟨body, hbody⟩ := Content.decodeOrText_isOk eligible payload.bytes
    simp [previewOf, hbody]

namespace Dialog
variable {console : Console} {actions : List Action}

theorem eligible_of_mem_previews {request : PreviewRequest}
    (h : request ∈ (reached console actions).previews) :
    Content.isPreviewable (some request.mimeType) = true := by
  obtain ⟨shown, -, fetched, hplan⟩ := planned_of_mem_previews h
  obtain ⟨-, eligible, typed, -⟩ := Viewer.previewRequest_eq_some.mp hplan
  rwa [typed] at eligible

/-- Eligibility and decoding agree on every body. So in every run, an answer to a preview request with
the newest token leaves the pane empty exactly if it brings no content. -/
theorem run_agreesOnEligibility (console : Console) (actions : List Action) :
    (∀ mimeType raw, Content.DecodesIfEligible mimeType raw) ∧
      ∀ i request answer, (reached console actions).previews[i]? = some request →
        request.token = (reached console actions).viewer.latest →
          ((step console (reached console actions) (.completePreview i answer)).2.1 =
              .preview .unavailable ↔
            ∃ e, answer = .error e) := by
  refine ⟨Content.decodesIfEligible, ?_⟩
  intro i request answer found newest
  have eligible := eligible_of_mem_previews (List.mem_of_getElem? found)
  have hresult := (Viewer.completePreview_current console (beq_iff_eq.mpr newest) answer).1
  simp only [step, found, hresult, Reply.preview.injEq]
  rw [← Console.previewOf_eq_none_iff eligible]
  cases console.previewOf request answer <;> simp

/-- The list that arrives is broken off, which makes it text and not malformed content: the pane is
filled. -/
theorem run_agreesOnEligibility_of_broken_list :
    let console : Console := ⟨Present.Presenter.standard, fun _ _ => ""⟩
    let queue := ManagedObject.queue "node" "host" "q"
    let info : MessageInfo := ⟨⟨⟨"1"⟩, 9, some "amqp/list"⟩, .ofList [("id", .number (.int 1))]⟩
    let actions : List Action :=
      [.begin queue ⟨⟨"1"⟩, 0, none⟩, .completeInfo 0 (.ok ⟨info, .headersIncluded⟩)]
    let request : PreviewRequest := ⟨1, queue, ⟨"1"⟩, "amqp/list", 1024, 9⟩
    let payload : ContentPayload := ⟨Utf8.ofString "[1, [2", some 9⟩
    (reached console actions).previews[0]? = some request ∧
      request.token = (reached console actions).viewer.latest ∧
      Content.DecodesIfEligible "amqp/list" payload.bytes ∧
      (step console (reached console actions) (.completePreview 0 (.ok payload))).2.1 ≠
        .preview .unavailable := by
  intro console queue info actions request payload
  have found : (reached console actions).previews[0]? = some request := by decide +kernel
  have newest : request.token = (reached console actions).viewer.latest := by decide +kernel
  obtain ⟨decodes, available⟩ := run_agreesOnEligibility console actions
  refine ⟨found, newest, decodes _ _, ?_⟩
  intro unavailable
  obtain ⟨e, he⟩ := (available 0 request (.ok payload) found newest).mp unavailable
  cases he

end Dialog
end MessageInspector
