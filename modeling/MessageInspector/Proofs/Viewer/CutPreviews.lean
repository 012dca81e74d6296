import MessageInspector.Proofs.Viewer.PaneAgreement
/-!
# Previews of cut bodies

A preview counts its bytes by the size in the message info. Neither the bytes that arrive nor the
size that their answer declares has a say, so a preview admits that its body was cut exactly if the
info reports more than the limit. Info that reports no size, or too small a one, lets a cut body pass
for the whole one.
-/
namespace MessageInspector

/-- What is kept of the answer is not the whole body: more arrived than was asked for, or the answer
declares more than is kept. -/
def ContentPayload.CutShort (payload : ContentPayload) (limit : Nat) : Prop :=
  limit < payload.bytes.length ∨
    ∃ declared, payload.declaredSize = some declared ∧ (payload.cut limit).bytes.length < declared

namespace Preview.ContentPreview

/-- The preview says that it shows the first bytes, and not that it shows all of them. -/
structure AdmitsCut (preview : ContentPreview) : Prop where
  truncated : preview.truncated = true
  notice : ∃ shown whole, preview.notice = partNotice shown whole
  notWhole : ∀ whole, preview.notice ≠ wholeNotice whole

theorem admitsCut_ofBody (body : DecodedBody) (limit totalBytes textRows : Nat) :
    (ofBody body limit totalBytes textRows).AdmitsCut ↔ limit < totalBytes := by
  constructor
  · intro h
    exact (truncated_ofBody _ _ _ _).mp h.truncated
  · intro h
    have hnotice : (ofBody body limit totalBytes textRows).notice = partNotice limit totalBytes := by
      rw [notice_ofBody, notice_of_lt h]
    refine ⟨(truncated_ofBody _ _ _ _).mpr h, ⟨_, _, hnotice⟩, ?_⟩
    intro whole
    rw [hnotice]
    exact partNotice_ne_wholeNotice _ _ _

end Preview.ContentPreview

/-- Info and answer are about one body: neither reports more bytes of it than the info does, and the
answer brings as many as were asked for. -/
structure SizedAlike (limit : Nat) (info : MessageInfo) (payload : ContentPayload) : Prop where
  received : payload.bytes.length ≤ info.sizeBytes
  declared : ∀ size, payload.declaredSize = some size → size ≤ info.sizeBytes
  delivered : min limit info.sizeBytes ≤ payload.bytes.length

theorem SizedAlike.lt_of_cutShort {limit : Nat} {info : MessageInfo} {payload : ContentPayload}
    (h : SizedAlike limit info payload) (cut : payload.CutShort limit) : limit < info.sizeBytes := by
  have hdelivered := h.delivered
  rcases cut with hlonger | ⟨size, hsize, hkept⟩
  · exact Nat.lt_of_lt_of_le hlonger h.received
  · have hdeclared := h.declared size hsize
    rw [ContentPayload.cut, List.length_take] at hkept
    omega

namespace SharedViewer
variable {console : Console} {actions : List Action} {mounted : Preview.Mounted}
  {info : MessageInfo} {payload : ContentPayload}

/-- The newest show has fetched this info, and with this answer the content of the mounted preview. -/
structure ShowsContent (console : Console) (actions : List Action) (mounted : Preview.Mounted)
    (info : MessageInfo) (payload : ContentPayload) : Prop where
  mounted : (reached console actions).viewer.pane.mounted = some mounted
  fetched : ∃ before object reference mimeType, begun actions = before ++ [(object, reference)] ∧
    (infoExchanges console actions before.length).getLast? =
      some ⟨⟨object, reference.id, .headersIncluded⟩, .ok info⟩ ∧
    contentExchanges console actions before.length =
      [⟨⟨object, info.id, mimeType, console.presenter.previewLimit⟩, .ok payload⟩]

theorem exists_showsContent (h : (reached console actions).viewer.pane.mounted = some mounted) :
    ∃ info payload, ShowsContent console actions mounted info payload := by
  obtain ⟨before, object, reference, info, mimeType, payload, body, hbegun, hinfo, -, -, hcontent,
    -⟩ := newest_of_mounted h
  exact ⟨info, payload, h, before, object, reference, mimeType, hbegun, hinfo, hcontent⟩

theorem ShowsContent.preview_eq (h : ShowsContent console actions mounted info payload) :
    ∃ body, mounted.preview =
      console.presenter.preview body console.presenter.previewLimit info.sizeBytes := by
  obtain ⟨before, object, reference, mimeType, hbegun, hinfo, -⟩ := h.fetched
  obtain ⟨before', object', reference', info', -, -, body, hbegun', hinfo', -, -, -, -, hpreview⟩ :=
    newest_of_mounted h.mounted
  obtain ⟨rfl, -⟩ := List.append_inj' (hbegun.symm.trans hbegun') rfl
  have hsame := congrArg Exchange.answer (Option.some.inj (hinfo.symm.trans hinfo'))
  obtain rfl : info = info' := Except.ok.inj hsame
  exact ⟨body, hpreview⟩

def AdmitsCuts (console : Console) (actions : List Action) : Prop :=
  ∀ mounted info payload, ShowsContent console actions mounted info payload →
    payload.CutShort console.presenter.previewLimit → mounted.preview.AdmitsCut

/-- A run admits its cuts exactly if the info of every cut body reports more than the limit, and so
it does where info and answers are about one body. -/
theorem run_admitsCuts_iff (console : Console) (actions : List Action) :
    (AdmitsCuts console actions ↔
      ∀ mounted info payload, ShowsContent console actions mounted info payload →
        payload.CutShort console.presenter.previewLimit →
          console.presenter.previewLimit < info.sizeBytes) ∧
    ((∀ mounted info payload, ShowsContent console actions mounted info payload →
        SizedAlike console.presenter.previewLimit info payload) →
      AdmitsCuts console actions) := by
  have exactly {mounted : Preview.Mounted} {info : MessageInfo} {payload : ContentPayload}
      (shows : ShowsContent console actions mounted info payload) :
      mounted.preview.AdmitsCut ↔ console.presenter.previewLimit < info.sizeBytes := by
    obtain ⟨body, hpreview⟩ := shows.preview_eq
    rw [hpreview]
    exact Preview.ContentPreview.admitsCut_ofBody _ _ _ _
  constructor
  · constructor
    · intro admits mounted info payload shown cut
      exact (exactly shown).mp (admits mounted info payload shown cut)
    · intro sized mounted info payload shown cut
      exact (exactly shown).mpr (sized mounted info payload shown cut)
  · intro alike mounted info payload shown cut
    exact (exactly shown).mpr ((alike mounted info payload shown).lt_of_cutShort cut)

/-- Of a text of five bytes, two arrive as asked for. Its info reports no size, and the preview claims
to show all of it. -/
theorem not_admitsCuts_of_unsized :
    let console : Console := ⟨Present.Presenter.standard.withPreviewLimit 2, fun _ _ => ""⟩
    let queue := ManagedObject.queue "node" "host" "q"
    let attributes := [("id", .number (.int 1)), ("mimeType", .string "text/plain")]
    let info : MessageInfo := ⟨⟨⟨"1"⟩, 0, some "text/plain"⟩, .ofList attributes⟩
    let payload : ContentPayload := ⟨Utf8.ofString "he", some 5⟩
    let actions : List Action :=
      [.begin queue ⟨⟨"1"⟩, 0, none⟩, .requestInfo 0, .answerInfo 0 (.ok info), .completeInfo 0,
        .answerContent 0 (.ok payload), .completePreview 0]
    let mounted : Preview.Mounted := ⟨1, .ofBody (.plainText "he") 2 0 4⟩
    MessageInfo.ofValue (.object attributes) = .ok info ∧
      ShowsContent console actions mounted info payload ∧ payload.CutShort 2 ∧
      mounted.preview.notice = "showing all 0 bytes" ∧ ¬ AdmitsCuts console actions := by
  intro console queue attributes info payload actions mounted
  have hshows : ShowsContent console actions mounted info payload := by
    refine ⟨by decide +kernel, [], queue, ⟨⟨"1"⟩, 0, none⟩, "text/plain", rfl, rfl, ?_⟩
    decide +kernel
  have hcut : payload.CutShort 2 := .inr ⟨5, rfl, by decide⟩
  refine ⟨rfl, hshows, hcut, by decide +kernel, ?_⟩
  intro admits
  have htruncated := (admits mounted info payload hshows hcut).truncated
  exact absurd htruncated (by decide)

end SharedViewer
end MessageInspector
