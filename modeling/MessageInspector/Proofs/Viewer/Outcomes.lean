import MessageInspector.Proofs.Content.Decoding
import MessageInspector.Proofs.Viewer.ContentRequests
/-!
# How shows end

A show ends in the step in which it hands its last answer to the viewer. Whether anything had
overtaken it by then, and what that answer was, decides how it ends.
-/
namespace MessageInspector

namespace ShowRequest
variable {console : Console} {request : ShowRequest} {infos : List InfoExchange}
  {contents : List ContentExchange} {preview : PreviewRequest}
  {answer : Except ApiError ContentPayload}

theorem Course.contents_of_contentArrived
    (h : request.Course console infos contents (.contentArrived preview answer)) :
    ∃ last, contents = [⟨preview.fetch, last⟩] ∧ answer = preview.fetch.receive last := by
  cases h with
  | delivered last planned => exact ⟨last, rfl, rfl⟩

end ShowRequest

namespace SharedViewer
variable {console : Console} {actions : List Action} {i : Nat}

inductive Ends (console : Console) (i : Nat) : Moment SharedViewer Action → ShowOutcome → Prop
  | withInfo {s request answer outcome}
      (ready : s.shows[i]? = some ⟨request, .infoArrived answer⟩)
      (final : stageAfterInfo request.token (s.viewer.completeInfo console request answer).result =
        .finished outcome) :
      Ends console i ⟨s, .completeInfo i⟩ outcome
  | withContent {s request preview answer}
      (ready : s.shows[i]? = some ⟨request, .contentArrived preview answer⟩) :
      Ends console i ⟨s, .completePreview i⟩
        (outcomeAfterPreview request.token (s.viewer.completePreview console preview answer).result)

section Step
variable {s : SharedViewer} {outcome : ShowOutcome}

theorem finished_move {after : SharedViewer} {action : Action} {n : Nat} {request : ShowRequest}
    {old stage : ShowStage} (hshows : after.shows = s.shows)
    (ready : s.shows[n]? = some ⟨request, old⟩) (unfinished : ∀ o, old ≠ .finished o)
    (hends : Ends console i ⟨s, action⟩ outcome ↔ n = i ∧ stage = .finished outcome) :
    (after.setStage n stage).stage? i = some (.finished outcome) ↔
      s.stage? i = some (.finished outcome) ∨ Ends console i ⟨s, action⟩ outcome := by
  rw [hends]
  simp only [stage?, getElem?_setStage, hshows]
  by_cases hni : n = i
  · subst hni
    have hold : ¬ old = .finished outcome := unfinished outcome
    simp [ready, hold]
  · simp [hni]

theorem finished_step_iff (s : SharedViewer) (action : Action) :
    (step console s action).1.stage? i = some (.finished outcome) ↔
      s.stage? i = some (.finished outcome) ∨ Ends console i ⟨s, action⟩ outcome := by
  have turn := turn_step console s action
  generalize (step console s action).1 = after, (step console s action).2 = events at turn ⊢
  cases turn with
  | begin object reference =>
    have hends : ¬ Ends console i ⟨s, .begin object reference⟩ outcome := nofun
    simp only [stage_eq_some, getElem?_concat_eq_some, hends, or_false]
    constructor
    · rintro ⟨request, hshown | ⟨-, hnew⟩⟩
      · exact ⟨request, hshown⟩
      · cases hnew
    · rintro ⟨request, hshown⟩
      exact ⟨request, .inl hshown⟩
  | requestInfo ready =>
    apply finished_move rfl ready nofun
    exact iff_of_false nofun (fun h => nomatch h.2)
  | @answerInfo n request fetch answer ready =>
    apply finished_move rfl ready nofun
    apply iff_of_false nofun
    rintro ⟨-, h⟩
    cases hnext : (fetch.answer s.session answer).next <;> simp [hnext, stageOf] at h
  | answerContent answer ready =>
    apply finished_move rfl ready nofun
    exact iff_of_false nofun (fun h => nomatch h.2)
  | @completeInfo n request answer ready =>
    apply finished_move rfl ready nofun
    constructor
    · intro h
      cases h with
      | withInfo ready' final =>
        rw [ready] at ready'
        cases ready'
        exact ⟨rfl, final⟩
    · rintro ⟨rfl, final⟩
      exact .withInfo ready final
  | @completePreview n request preview answer ready =>
    apply finished_move rfl ready nofun
    constructor
    · intro h
      cases h with
      | withContent ready' =>
        rw [ready] at ready'
        cases ready'
        exact ⟨rfl, rfl⟩
    · rintro ⟨rfl, final⟩
      cases final
      exact .withContent ready
  | hide =>
    have hends : ¬ Ends console i ⟨s, .hide⟩ outcome := nofun
    simp only [hends, or_false]
    rfl
  | idle out =>
    refine ⟨.inl, ?_⟩
    rintro (h | h)
    · exact h
    · cases h with
      | withInfo ready final => exact absurd ready (out _ _)
      | withContent ready => exact absurd ready (out _ _ _)

end Step

def Returned (console : Console) (actions : List Action) (i : Nat) (outcome : ShowOutcome) : Prop :=
  (reached console actions).stage? i = some (.finished outcome)

theorem returned_iff {outcome : ShowOutcome} :
    Returned console actions i outcome ↔ ∃ m ∈ moments console actions, Ends console i m outcome := by
  induction actions using List.reverseRecOn with
  | nil => simp [Returned, reached, run, initial, stage?, moments, history]
  | append_singleton actions action ih =>
    rw [Returned, reached_concat, finished_step_iff, ← Returned, ih, moments_concat]
    simp only [List.mem_append, List.mem_singleton, or_and_right, exists_or, exists_eq_left]

section Endings
variable {earlier : List Action} {request : ShowRequest} {outcome : ShowOutcome}

end Endings

/-- After the earlier steps a show hands its info to the viewer. The exchange is the one that ended
its fetch. -/
structure CompletesInfo (console : Console) (actions : List Action) (i : Nat)
    (earlier : List Action) (last : InfoExchange) : Prop where
  completes : ∃ later, actions = earlier ++ .completeInfo i :: later
  arrived : ∃ answer, (reached console earlier).stage? i = some (.infoArrived answer)
  last : (infoExchanges console earlier i).getLast? = some last

/-- After the earlier steps a show hands its content to the viewer. The exchange is the one in which
it asked for the content. -/
structure CompletesPreview (console : Console) (actions : List Action) (i : Nat)
    (earlier : List Action) (asked : ContentExchange) : Prop where
  completes : ∃ later, actions = earlier ++ .completePreview i :: later
  arrived : ∃ preview answer,
    (reached console earlier).stage? i = some (.contentArrived preview answer)
  asked : contentExchanges console earlier i = [asked]

theorem requests_append (console : Console) (earlier later : List Action) :
    (reached console earlier).shows.map (·.request) <+:
      (reached console (earlier ++ later)).shows.map (·.request) := by
  induction later using List.reverseRecOn with
  | nil => simp
  | append_singleton later action ih =>
    rw [← List.append_assoc, reached_concat, requests_step]
    exact ih.trans (List.prefix_append _ _)

theorem request_of_earlier {earlier later : List Action} {before after : Show}
    (hbefore : (reached console earlier).shows[i]? = some before)
    (hafter : (reached console (earlier ++ later)).shows[i]? = some after) :
    before.request = after.request := by
  obtain ⟨more, hmore⟩ := requests_append console earlier later
  have hfirst : ((reached console earlier).shows.map (·.request))[i]? = some before.request := by
    rw [List.getElem?_map, hbefore]
    rfl
  have hlast : ((reached console (earlier ++ later)).shows.map (·.request))[i]? =
      some after.request := by
    rw [List.getElem?_map, hafter]
    rfl
  have hi := (List.getElem?_eq_some_iff.mp hfirst).1
  rw [← hmore, List.getElem?_append_left hi] at hlast
  exact Option.some.inj (hfirst.symm.trans hlast)

section Completion
variable {earlier : List Action} {shown : Show}

theorem CompletesInfo.ready {last : InfoExchange}
    (hshown : (reached console actions).shows[i]? = some shown)
    (h : CompletesInfo console actions i earlier last) :
    (reached console earlier).shows[i]? = some ⟨shown.request, .infoArrived last.result⟩ := by
  obtain ⟨answer, harrived⟩ := h.arrived
  obtain ⟨request, ready⟩ := stage_eq_some.mp harrived
  obtain ⟨later, rfl⟩ := h.completes
  obtain rfl : request = shown.request := request_of_earlier ready hshown
  have answered : shown.request.Answered (infoExchanges console earlier i) answer :=
    ((accounted console earlier).present i _ ready).course.answered_of_infoArrived
  obtain ⟨scope, answer', hlast, rfl⟩ := answered.getLast
  obtain rfl := Option.some.inj (hlast.symm.trans h.last)
  exact ready

theorem CompletesPreview.ready {asked : ContentExchange}
    (hshown : (reached console actions).shows[i]? = some shown)
    (h : CompletesPreview console actions i earlier asked) :
    ∃ preview, (reached console earlier).shows[i]? =
      some ⟨shown.request, .contentArrived preview (preview.fetch.receive asked.answer)⟩ := by
  obtain ⟨preview, answer, harrived⟩ := h.arrived
  obtain ⟨request, ready⟩ := stage_eq_some.mp harrived
  obtain ⟨later, rfl⟩ := h.completes
  obtain rfl : request = shown.request := request_of_earlier ready hshown
  have course := ((accounted console earlier).present i _ ready).course
  obtain ⟨last, hcontents, rfl⟩ := course.contents_of_contentArrived
  obtain rfl := List.singleton_inj.mp (hcontents.symm.trans h.asked)
  exact ⟨preview, ready⟩

end Completion

theorem shown_of_earlier {earlier later : List Action} {before : Show}
    (hbefore : (reached console earlier).shows[i]? = some before) :
    ∃ after, (reached console (earlier ++ later)).shows[i]? = some after := by
  obtain ⟨more, hmore⟩ := requests_append console earlier later
  have hlength := congrArg List.length hmore
  rw [List.length_append, List.length_map, List.length_map] at hlength
  have hi := (List.getElem?_eq_some_iff.mp hbefore).1
  have hlater : i < (reached console (earlier ++ later)).shows.length := by omega
  exact ⟨_, List.getElem?_eq_getElem hlater⟩

theorem CompletesInfo.shown {earlier : List Action} {last : InfoExchange}
    (h : CompletesInfo console actions i earlier last) :
    ∃ shown, (reached console actions).shows[i]? = some shown := by
  obtain ⟨answer, harrived⟩ := h.arrived
  obtain ⟨request, ready⟩ := stage_eq_some.mp harrived
  obtain ⟨later, rfl⟩ := h.completes
  exact shown_of_earlier ready

theorem CompletesPreview.shown {earlier : List Action} {asked : ContentExchange}
    (h : CompletesPreview console actions i earlier asked) :
    ∃ shown, (reached console actions).shows[i]? = some shown := by
  obtain ⟨preview, answer, harrived⟩ := h.arrived
  obtain ⟨request, ready⟩ := stage_eq_some.mp harrived
  obtain ⟨later, rfl⟩ := h.completes
  exact shown_of_earlier ready

end SharedViewer
end MessageInspector
