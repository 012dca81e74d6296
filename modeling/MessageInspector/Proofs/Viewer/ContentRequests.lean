import MessageInspector.Proofs.Viewer.HeldAnswers
import MessageInspector.Proofs.Viewer.Screen
/-!
# Content requests

A show asks for content exactly when it may show it: its info came with headers and has a type that
can be previewed, and nothing had overtaken the show when it handed its info to the viewer.
-/
namespace MessageInspector

theorem Content.isPreviewable_iff (mimeType : String) :
    isPreviewable (some mimeType) = true ↔ mimeType.startsWith "text/" = true ∨
      mimeType ∈ ["amqp/list", "amqp/map", "jms/map-message"] := by
  simp [isPreviewable, isText, isList, isMap, listType, mapType, messageMapType, or_assoc]

theorem InfoFetch.Course.eq_of_prefix {first other : InfoFetch} {xs ys : List InfoExchange}
    {answer answer' : Except ApiError FetchedInfo} (h : Course first xs (.done answer))
    (h' : Course other ys (.done answer')) (hfirst : xs <+: ys) : xs = ys := by
  cases h with
  | answered final =>
    cases h' with
    | answered final' => exact hfirst.eq_of_length rfl
    | retried refused =>
      obtain ⟨hsame, -⟩ := List.cons_prefix_cons.mp hfirst
      rw [hsame] at final
      exact absurd refused final
  | retried refused =>
    cases h' with
    | answered final' =>
      have := hfirst.length_le
      simp at this
    | retried refused' => exact hfirst.eq_of_length rfl

namespace ShowRequest
variable {console : Console} {request : ShowRequest} {infos : List InfoExchange}
  {contents : List ContentExchange} {stage : ShowStage}

theorem Answered.calls_for {answer : Except ApiError FetchedInfo}
    (h : request.Answered infos answer) : ∀ call ∈ infos.map (·.fetch.call),
      ∃ headers, call = .info request.object ⟨request.reference.id, headers⟩ := by
  obtain ⟨scope, course⟩ := h
  intro call hcall
  exact course.calls_for call (List.mem_append_left _ hcall)

theorem Planned.calls_for {preview : PreviewRequest} (h : request.Planned console infos preview) :
    ∀ call ∈ infos.map (·.fetch.call),
      ∃ headers, call = .info request.object ⟨request.reference.id, headers⟩ := by
  obtain ⟨fetched, answered, -⟩ := h
  exact answered.calls_for

theorem Course.calls (h : request.Course console infos contents stage) :
    (∀ call ∈ infos.map (·.fetch.call) ++ contents.map (·.fetch.call) ++ stage.pending,
        ∃ headers, call = .info request.object ⟨request.reference.id, headers⟩) ∨
      ∃ preview, request.Planned console infos preview ∧
        infos.map (·.fetch.call) ++ contents.map (·.fetch.call) ++ stage.pending =
          infos.map (·.fetch.call) ++ [preview.fetch.call] := by
  cases h with
  | begun =>
    left
    exact nofun
  | asking underway =>
    left
    rw [List.map_nil, List.append_nil]
    exact underway.calls_for
  | informed answered | ended outcome answered =>
    left
    simp only [ShowStage.pending, List.map_nil, List.append_nil]
    exact answered.calls_for
  | planned planned =>
    right
    refine ⟨_, planned, ?_⟩
    rw [List.map_nil, List.append_nil]
    rfl
  | delivered answer planned | closed answer outcome planned =>
    right
    refine ⟨_, planned, ?_⟩
    simp only [ShowStage.pending, List.append_nil]
    rfl

end ShowRequest

namespace SharedViewer
variable {console : Console} {actions : List Action} {i : Nat}

/-- A show for a message of an object hands its info to the viewer after the earlier steps, and may
then show content. -/
structure MayPreview (console : Console) (actions : List Action) (i : Nat) (object : ManagedObject)
    (reference : MessageReference) (earlier : List Action) (info : MessageInfo)
    (mimeType : String) : Prop where
  completes : ∃ later, actions = earlier ++ .completeInfo i :: later
  arrived : ∃ answer, (reached console earlier).stage? i = some (.infoArrived answer)
  current : ¬ Overtaken earlier i
  fetched : (infoExchanges console earlier i).getLast? =
    some ⟨⟨object, reference.id, .headersIncluded⟩, .ok info⟩
  typed : info.mimeType = some mimeType
  previewable : mimeType.startsWith "text/" = true ∨
    mimeType ∈ ["amqp/list", "amqp/map", "jms/map-message"]

theorem infoExchanges_append (earlier later : List Action) (i : Nat) :
    infoExchanges console earlier i <+: infoExchanges console (earlier ++ later) i := by
  rw [infoExchanges, infoExchanges, moments_append, List.filterMap_append]
  exact List.prefix_append _ _

variable {object : ManagedObject} {reference : MessageReference} {earlier : List Action}
  {info : MessageInfo} {mimeType : String}

private theorem MayPreview.ready
    (h : MayPreview console actions i object reference earlier info mimeType)
    (hbegun : (begun actions)[i]? = some (object, reference)) :
    ∃ request preview,
      (reached console earlier).shows[i]? =
        some ⟨request, .infoArrived (.ok ⟨info, .headersIncluded⟩)⟩ ∧
      Viewer.previewRequest request (Viewer.modelOf console request ⟨info, .headersIncluded⟩) =
        some preview := by
  obtain ⟨answer, harrived⟩ := h.arrived
  obtain ⟨request, ready⟩ := stage_eq_some.mp harrived
  obtain ⟨later, rfl⟩ := h.completes
  have hsame := begun_of_earlier (.completeInfo i :: later) ready
  rw [hbegun, Option.some.injEq, Prod.mk.injEq] at hsame
  obtain ⟨rfl, rfl⟩ := hsame
  have answered : request.Answered (infoExchanges console earlier i) answer :=
    ((accounted console earlier).present i _ ready).course.answered_of_infoArrived
  obtain rfl := (answered.eq_ok_iff info .headersIncluded).mpr h.fetched
  let preview : PreviewRequest := ⟨request.token, request.object, info.id, mimeType,
    console.presenter.previewLimit, info.sizeBytes⟩
  refine ⟨request, preview, ready, Viewer.previewRequest_eq_some.mpr ⟨rfl, ?_, h.typed, rfl⟩⟩
  have hpreviewable := (Content.isPreviewable_iff mimeType).mpr h.previewable
  rw [← h.typed] at hpreviewable
  exact hpreviewable

private theorem MayPreview.settled
    (h : MayPreview console actions i object reference earlier info mimeType) {shown : Show}
    (hshown : (reached console actions).shows[i]? = some shown)
    {answer : Except ApiError FetchedInfo}
    (answered : shown.request.Answered (infoExchanges console actions i) answer) :
    (infoExchanges console actions i).getLast? =
      some ⟨⟨object, reference.id, .headersIncluded⟩, .ok info⟩ := by
  obtain ⟨early, harrived⟩ := h.arrived
  obtain ⟨request, ready⟩ := stage_eq_some.mp harrived
  obtain ⟨scope, course⟩ := answered
  obtain ⟨scope', course'⟩ :=
    ((accounted console earlier).present i _ ready).course.answered_of_infoArrived
  obtain ⟨later, rfl⟩ := h.completes
  rw [← course'.eq_of_prefix course (infoExchanges_append earlier _ i)]
  exact h.fetched

end SharedViewer
end MessageInspector
