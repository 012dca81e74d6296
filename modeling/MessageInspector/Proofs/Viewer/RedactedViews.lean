import MessageInspector.Proofs.Present.Redaction
import MessageInspector.Proofs.Viewer.Screen
/-!
# Redacted views

If the newest show could only fetch its info without headers, nothing confidential is on the screen:
neither in its own model nor left over from a show before. A show that asks after the session has
lost its headers is always shown like that.
-/
namespace MessageInspector

def ShowStage.asksWithoutHeaders : ShowStage → Prop
  | .begun => False
  | .awaitingInfo fetch => fetch.scope = .headersExcluded
  | _ => True

namespace SharedViewer
variable {console : Console} {actions : List Action} {i : Nat}

structure AskedWithoutHeaders (console : Console) (actions : List Action) (i : Nat) (shown : Show) :
    Prop where
  found : (reached console actions).shows[i]? = some shown
  ahead : shown.stage.asksWithoutHeaders
  behind : ∀ x ∈ infoExchanges console actions i, x.fetch.scope = .headersExcluded

private theorem AskedWithoutHeaders.of_setStage {old : Show} {action : Action}
    {after : SharedViewer} {stage : ShowStage} (h : AskedWithoutHeaders console actions i old)
    (hreached : reached console (actions ++ [action]) = after.setStage i stage)
    (hshows : after.shows = (reached console actions).shows) (ahead : stage.asksWithoutHeaders)
    (behind : ∀ x ∈ infoExchange? i ⟨reached console actions, action⟩,
      x.fetch.scope = .headersExcluded) :
    AskedWithoutHeaders console (actions ++ [action]) i ⟨old.request, stage⟩ where
  found := by
    rw [hreached, getElem?_setStage, if_pos rfl, hshows, h.found]
    rfl
  ahead := ahead
  behind := by
    intro x hx
    rw [infoExchanges_concat, List.mem_append, Option.mem_toList] at hx
    rcases hx with hx | hx
    · exact h.behind x hx
    · exact behind x hx

private theorem AskedWithoutHeaders.own {shown : Show} {action : Action}
    (h : AskedWithoutHeaders console actions i shown) (mine : action.show? = some i) :
    ∃ shown, AskedWithoutHeaders console (actions ++ [action]) i shown := by
  have hfound := h.found
  have hahead := h.ahead
  have hreached := reached_concat console actions action
  have quiet (hnone : infoExchange? i ⟨reached console actions, action⟩ = none) :
      ∀ x ∈ infoExchange? i ⟨reached console actions, action⟩, x.fetch.scope = .headersExcluded := by
    intro x hx
    rw [hnone] at hx
    cases hx
  have turn := turn_step console (reached console actions) action
  generalize (step console (reached console actions) action).1 = after,
    (step console (reached console actions) action).2 = events at turn hreached
  cases turn with
  | begin object reference => cases mine
  | hide => cases mine
  | requestInfo ready =>
    obtain rfl := Option.some.inj mine
    rw [ready] at hfound
    obtain rfl := Option.some.inj hfound
    exact hahead.elim
  | @answerInfo n request fetch answer ready =>
    obtain rfl := Option.some.inj mine
    rw [ready] at hfound
    obtain rfl := Option.some.inj hfound
    have hscope : fetch.scope = .headersExcluded := hahead
    have hfinal : ¬ InfoExchange.Refused ⟨fetch, answer⟩ := by
      rintro ⟨hincluded, -⟩
      rw [hscope] at hincluded
      cases hincluded
    refine ⟨_, h.of_setStage hreached rfl ?_ ?_⟩
    · rw [InfoFetch.answer_of_not_refused hfinal]
      trivial
    · intro x hx
      simp only [infoExchange?, ready, if_pos, Option.mem_some_iff] at hx
      rw [← hx]
      exact hscope
  | @completeInfo n request answer ready =>
    obtain rfl := Option.some.inj mine
    refine ⟨_, h.of_setStage hreached rfl ?_ (quiet rfl)⟩
    cases (reached console actions).viewer.completeInfo console request answer |>.result with
    | shown preview => cases preview <;> trivial
    | failed e => trivial
    | stale => trivial
  | answerContent answer ready =>
    obtain rfl := Option.some.inj mine
    exact ⟨_, h.of_setStage hreached rfl trivial (quiet rfl)⟩
  | completePreview ready =>
    obtain rfl := Option.some.inj mine
    exact ⟨_, h.of_setStage hreached rfl trivial (quiet rfl)⟩
  | idle out =>
    refine ⟨shown, ?_, hahead, ?_⟩
    · rw [hreached]
      exact hfound
    · rw [infoExchanges_of_none (exchange_of_outOfTurn out i).1]
      exact h.behind

private theorem AskedWithoutHeaders.step {shown : Show}
    (h : AskedWithoutHeaders console actions i shown) (action : Action) :
    ∃ shown, AskedWithoutHeaders console (actions ++ [action]) i shown := by
  by_cases mine : action.show? = some i
  · exact h.own mine
  · have hi := (List.getElem?_eq_some_iff.mp h.found).1
    refine ⟨shown, ?_, h.ahead, ?_⟩
    · rw [reached_concat, getElem?_step_of_show_ne hi mine]
      exact h.found
    · rw [infoExchanges_of_none (infoExchange_of_show_ne mine)]
      exact h.behind

theorem askedWithoutHeaders_of_request {earlier : List Action} (later : List Action)
    {request : ShowRequest}
    (ready : (reached console earlier).shows[i]? = some ⟨request, .begun⟩)
    (excluded : (reached console earlier).session = .headersExcluded) :
    ∃ shown, AskedWithoutHeaders console (earlier ++ .requestInfo i :: later) i shown := by
  induction later using List.reverseRecOn with
  | nil =>
    have hreached : reached console (earlier ++ [.requestInfo i]) =
        (reached console earlier).setStage i
          (.awaitingInfo (request.fetch (reached console earlier).session)) := by
      rw [reached_concat]
      simp only [step, ready]
      rfl
    refine ⟨⟨request, .awaitingInfo (request.fetch (reached console earlier).session)⟩, ?_, ?_, ?_⟩
    · rw [hreached, getElem?_setStage, if_pos rfl, ready]
      rfl
    · exact excluded
    · have course := ((accounted console earlier).present i _ ready).course
      rw [infoExchanges_of_none rfl, course.infos_of_begun]
      intro x hx
      cases hx
  | append_singleton later action ih =>
    obtain ⟨shown, ih⟩ := ih
    rw [← List.cons_append, ← List.append_assoc]
    exact ih.step action

/-- What a run of interleaved shows and hides keeps off the screen. -/
structure ConfidentialityKept (console : Console) (actions : List Action) : Prop where
  /-- Without confidential parts, the dialog has no preview, no link and only placeholders in
  confidential slots. -/
  redacted : ∀ model, (reached console actions).viewer.model = some model →
    model.includesConfidential = false →
      (reached console actions).viewer.pane.mounted = none ∧ model.download = none ∧
        model.preview = .hidden ∧
        ∀ field ∈ model.fields, ∃ slot, console.presenter.slots.get? field.slot = some slot ∧
          (slot.confidential = true → field.content = .redacted ∧ field.html = "")
  /-- Confidential parts are only shown of info that the newest show got by asking for headers. -/
  granted : ∀ model, (reached console actions).viewer.model = some model →
    model.includesConfidential = true →
      ∃ earlier object reference info, begun actions = earlier ++ [(object, reference)] ∧
        .info object ⟨reference.id, true⟩ ∈ calls console actions earlier.length ∧
        (infoExchanges console actions earlier.length).getLast? =
          some ⟨⟨object, reference.id, .headersIncluded⟩, .ok info⟩ ∧
        model = console.presenter.build info true (fun id => console.downloadUrl object (.full id))
  /-- A show that asks for its info once the session is without headers never asks for them, and its
  model is redacted. -/
  afterDowngrade : ∀ earlier later i, actions = earlier ++ .requestInfo i :: later →
    (reached console earlier).stage? i = some .begun →
    (reached console earlier).session = .headersExcluded →
      (∀ x ∈ infoExchanges console actions i, x.fetch.scope = .headersExcluded) ∧
        ((begun actions).length = i + 1 →
          ∀ model, (reached console actions).viewer.model = some model →
            model.includesConfidential = false)

private theorem call_mem_calls {shown : Show} {x : InfoExchange}
    (hshown : (reached console actions).shows[i]? = some shown)
    (hx : x ∈ infoExchanges console actions i) : x.fetch.call ∈ calls console actions i := by
  rw [((accounted console actions).present i shown hshown).calls, List.append_assoc]
  apply List.mem_append_left
  exact List.mem_map.mpr ⟨x, hx, rfl⟩

/-- No run, however its steps interleave, puts anything confidential on the screen of a show that
had to do without headers. -/
theorem run_keepsConfidentiality (console : Console) (actions : List Action) :
    ConfidentialityKept console actions where
  redacted := by
    intro model hm hredacted
    obtain ⟨before, shown, fetched, -, -, answered, rfl, presents⟩ := newest_of_model hm
    have hfetched : fetched.includesConfidential = false := hredacted
    refine ⟨?_, ?_, ?_, ?_⟩
    · rw [Option.eq_none_iff_forall_ne_some]
      intro mounted hmounted
      obtain ⟨plan, payload, body, outcome, -, ⟨planned, answered', hplan⟩, -⟩ :=
        presents.mounted mounted hmounted
      obtain rfl := Except.ok.inj (answered.unique answered')
      have hincluded := (Viewer.previewRequest_eq_some.mp hplan).1
      rw [hfetched] at hincluded
      cases hincluded
    · simp [Viewer.modelOf, Present.Presenter.build, hfetched]
    · simp [Viewer.modelOf, Present.Presenter.build, hfetched]
    · intro field hfield
      rw [Viewer.modelOf, hfetched] at hfield
      exact Present.Presenter.redacted_of_mem_build hfield
  granted := by
    intro model hm hconfidential
    obtain ⟨before, shown, fetched, hbegun, hshown, answered, rfl, -⟩ := newest_of_model hm
    have hfetched : fetched.includesConfidential = true := hconfidential
    have hlast := answered.getLast_ok
    rw [fetched.scope_of_includesConfidential hfetched] at hlast
    refine ⟨before, _, _, fetched.info, hbegun, ?_, hlast, ?_⟩
    · exact call_mem_calls hshown (List.mem_of_getLast? hlast)
    · rw [Viewer.modelOf, hfetched]
      rfl
  afterDowngrade := by
    rintro earlier later i rfl hstage excluded
    obtain ⟨request, ready⟩ := stage_eq_some.mp hstage
    obtain ⟨shown, hasked⟩ := askedWithoutHeaders_of_request later ready excluded
    refine ⟨hasked.behind, ?_⟩
    intro hnewest model hm
    obtain ⟨before, newest, fetched, hbegun, -, answered, rfl, -⟩ := newest_of_model hm
    rw [hbegun, List.length_append, List.length_singleton, Nat.add_right_cancel_iff] at hnewest
    subst hnewest
    have hscope := hasked.behind _ (List.mem_of_getLast? answered.getLast_ok)
    change fetched.scope.includesHeaders = false
    rw [show fetched.scope = .headersExcluded from hscope]
    rfl

end SharedViewer
end MessageInspector
