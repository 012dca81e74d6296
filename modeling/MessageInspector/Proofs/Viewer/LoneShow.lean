import Mathlib.Logic.Function.Iterate
import MessageInspector.Proofs.Viewer.Completion
import MessageInspector.Proofs.Viewer.SharedHistory
/-!
# Shows that nothing disturbs

A show that runs from its beginning to its end, while nothing else happens, leaves what its message,
the interface and the scope of the session make of it, whatever was on the screen before. If it was
refused the headers, the session does without them from then on, and the same show once more ends
where the first one ended.
-/
namespace MessageInspector

/-- A management interface whose answers depend on its calls alone. -/
structure SteadyApi where
  info : ManagedObject → InfoQuery → Except ApiError MessageInfo
  content : ManagedObject → ContentQuery → String → Except ApiError ContentPayload

/-- What a finished show leaves, apart from the numbers of its token and its widget. -/
structure Rendering where
  outcome : ShowOutcome
  phase : Phase
  model : Option Present.Model
  populated : List String
  preview : Option Preview.ContentPreview
  session : FetchScope

def Rendering.ofModel (model : Present.Model) (preview : Option (Option Preview.ContentPreview))
    (session : FetchScope) : Rendering where
  outcome := .shown 0 (preview.map fun shown => if shown.isSome then .mounted 0 else .unavailable)
  phase := .shown
  model := some model
  populated := model.fields.map (·.slot)
  preview := preview.join
  session := session

def PreviewTransition.unnumbered : PreviewTransition → PreviewTransition
  | .mounted _ => .mounted 0
  | .unavailable => .unavailable
  | .stale => .stale

def ShowOutcome.unnumbered : ShowOutcome → ShowOutcome
  | .shown _ preview => .shown 0 (preview.map (·.unnumbered))
  | .superseded => .superseded
  | .failed error => .failed error

def SharedViewer.rendering? (s : SharedViewer) (i : Nat) : Option Rendering :=
  match s.stage? i with
  | some (.finished outcome) =>
    some {
      outcome := outcome.unnumbered
      phase := s.viewer.phase
      model := s.viewer.model
      populated := s.viewer.populated
      preview := s.viewer.pane.mounted.map (·.preview)
      session := s.session }
  | _ => none

theorem SharedViewer.session_of_rendering {s : SharedViewer} {i : Nat} {rendering : Rendering}
    (h : s.rendering? i = some rendering) : s.session = rendering.session := by
  simp only [rendering?] at h
  split at h
  · rw [← Option.some.inj h]
  · cases h

instance InfoExchange.decidableRefused : (x : InfoExchange) → Decidable x.Refused
  | ⟨_, .ok _⟩ => isFalse (fun h => nomatch h.2)
  | ⟨fetch, .error e⟩ => decidable_of_iff _ (fetch.isRefusal_iff e)

namespace SteadyApi
variable (api : SteadyApi)

def answerInfo (fetch : InfoFetch) : Except ApiError MessageInfo :=
  api.info fetch.object ⟨fetch.id, fetch.scope.includesHeaders⟩

def answerContent (fetch : PreviewFetch) : Except ApiError ContentPayload :=
  api.content fetch.object ((ContentQuery.full fetch.id).withLimit fetch.limit) fetch.mimeType

def nextAction? (s : SharedViewer) (i : Nat) : Option SharedViewer.Action :=
  match s.stage? i with
  | some .begun => some (.requestInfo i)
  | some (.awaitingInfo fetch) => some (.answerInfo i (api.answerInfo fetch))
  | some (.infoArrived _) => some (.completeInfo i)
  | some (.awaitingContent request) => some (.answerContent i (api.answerContent request.fetch))
  | some (.contentArrived _ _) => some (.completePreview i)
  | some (.finished _) => none
  | none => none

def advance (console : Console) (i : Nat) (s : SharedViewer) : SharedViewer :=
  match api.nextAction? s i with
  | some action => (s.step console action).1
  | none => s

/-- No show takes more steps once it has begun: it asks twice for message info at most. -/
def longestCourse : Nat := 6

/-- A show from its beginning to its end, while nothing else happens. -/
def showAlone (console : Console) (s : SharedViewer) (object : ManagedObject)
    (reference : MessageReference) : SharedViewer :=
  (api.advance console s.shows.length)^[longestCourse]
    (s.step console (.begin object reference)).1

def settle (fetch : InfoFetch) : FetchScope × Except ApiError FetchedInfo :=
  if InfoExchange.Refused ⟨fetch, api.answerInfo fetch⟩ then
    (.headersExcluded,
      InfoExchange.result ⟨fetch.withoutHeaders, api.answerInfo fetch.withoutHeaders⟩)
  else (fetch.scope, InfoExchange.result ⟨fetch, api.answerInfo fetch⟩)

theorem settle_of_refused {fetch : InfoFetch}
    (refused : InfoExchange.Refused ⟨fetch, api.answerInfo fetch⟩) :
    api.settle fetch = (.headersExcluded,
      InfoExchange.result ⟨fetch.withoutHeaders, api.answerInfo fetch.withoutHeaders⟩) := if_pos refused

theorem settle_of_not_refused {fetch : InfoFetch}
    (final : ¬ InfoExchange.Refused ⟨fetch, api.answerInfo fetch⟩) :
    api.settle fetch = (fetch.scope, InfoExchange.result ⟨fetch, api.answerInfo fetch⟩) := if_neg final

/-- In the session that a fetch has left, the same fetch ends with the same answer and leaves the
session as it is. -/
theorem settle_again (fetch : InfoFetch) :
    api.settle { fetch with scope := (api.settle fetch).1 } = api.settle fetch := by
  by_cases refused : InfoExchange.Refused ⟨fetch, api.answerInfo fetch⟩
  · rw [api.settle_of_refused refused]
    exact api.settle_of_not_refused (fetch.withoutHeaders_not_refused _)
  · simp only [api.settle_of_not_refused refused]

def previewOf (console : Console) (object : ManagedObject) (model : Present.Model) :
    Option (Option Preview.ContentPreview) :=
  match model.preview with
  | .hidden => none
  | .pending mimeType limit totalBytes _ =>
    let request : PreviewRequest := ⟨0, object, model.messageId, mimeType, limit, totalBytes⟩
    some (console.previewOf request (request.fetch.receive (api.answerContent request.fetch)))

theorem previewOf_eq_map (console : Console) (request : ShowRequest) (model : Present.Model) :
    api.previewOf console request.object model =
      (Viewer.previewRequest request model).map fun preview =>
        console.previewOf preview (preview.fetch.receive (api.answerContent preview.fetch)) := by
  unfold previewOf Viewer.previewRequest
  cases model.preview <;> rfl

def leaves (console : Console) (object : ManagedObject) (reference : MessageReference)
    (session : FetchScope) : Except ApiError FetchedInfo → Rendering
  | .error e => ⟨.failed ⟨reference.id, e⟩, .hidden, none, [], none, session⟩
  | .ok fetched =>
    let model := console.presenter.build fetched.info fetched.includesConfidential
      (console.wholeContentUrl object)
    .ofModel model (api.previewOf console object model) session

theorem leaves_ok (console : Console) (request : ShowRequest) (session : FetchScope)
    (fetched : FetchedInfo) :
    api.leaves console request.object request.reference session (.ok fetched) =
      .ofModel (Viewer.modelOf console request fetched)
        ((Viewer.previewRequest request (Viewer.modelOf console request fetched)).map fun preview =>
          console.previewOf preview (preview.fetch.receive (api.answerContent preview.fetch)))
        session := by
  rw [← api.previewOf_eq_map]
  rfl

/-- What a show leaves that nothing disturbs. -/
def rendering (console : Console) (object : ManagedObject) (reference : MessageReference)
    (session : FetchScope) : Rendering :=
  let settled := api.settle ⟨object, reference.id, session⟩
  api.leaves console object reference settled.1 settled.2

theorem session_leaves (console : Console) (object : ManagedObject) (reference : MessageReference)
    (session : FetchScope) (answer : Except ApiError FetchedInfo) :
    (api.leaves console object reference session answer).session = session := by
  cases answer <;> rfl

theorem rendering_again (console : Console) (object : ManagedObject) (reference : MessageReference)
    (session : FetchScope) :
    api.rendering console object reference (api.rendering console object reference session).session =
      api.rendering console object reference session := by
  have again := api.settle_again ⟨object, reference.id, session⟩
  simp only [rendering, session_leaves]
  rw [again]

end SteadyApi

section Course
variable {console : Console} {api : SteadyApi} {i : Nat} {s t u : SharedViewer} {k l : Nat}

def SteadyApi.Leads (api : SteadyApi) (console : Console) (i most : Nat) (s t : SharedViewer) : Prop :=
  ∃ n, n ≤ most ∧ (api.advance console i)^[n] s = t

namespace SteadyApi.Leads

theorem refl (s : SharedViewer) : api.Leads console i k s s := ⟨0, Nat.zero_le k, rfl⟩

theorem step (h : api.Leads console i k (api.advance console i s) t) :
    api.Leads console i (k + 1) s t := by
  obtain ⟨n, hn, rfl⟩ := h
  exact ⟨n + 1, Nat.succ_le_succ hn, rfl⟩

theorem trans (h : api.Leads console i k s t) (h' : api.Leads console i l t u) :
    api.Leads console i (k + l) s u := by
  obtain ⟨n, hn, rfl⟩ := h
  obtain ⟨m, hm, rfl⟩ := h'
  refine ⟨m + n, by omega, ?_⟩
  rw [Function.iterate_add_apply]

theorem eq_iterate (h : api.Leads console i k s t) (fixed : api.advance console i t = t) :
    (api.advance console i)^[k] s = t := by
  obtain ⟨n, hn, rfl⟩ := h
  obtain ⟨m, rfl⟩ := Nat.exists_eq_add_of_le hn
  rw [Nat.add_comm, Function.iterate_add_apply, Function.iterate_fixed fixed]

end SteadyApi.Leads
end Course

namespace SharedViewer
variable (v : Viewer) (session : FetchScope) (earlier : List Show) (shown : Show)

@[simp]
theorem stage_concat : stage? ⟨v, session, earlier ++ [shown]⟩ earlier.length = some shown.stage := by
  simp [stage?]

@[simp]
theorem setStage_concat (stage : ShowStage) :
    setStage ⟨v, session, earlier ++ [shown]⟩ earlier.length stage =
      ⟨v, session, earlier ++ [{ shown with stage := stage }]⟩ := by
  rw [setStage, List.modify_eq_take_cons_drop (by simp)]
  simp

end SharedViewer

structure Viewer.Awaits (v : Viewer) (request : ShowRequest) : Prop where
  current : v.isCurrent request.token = true
  unrendered : v.model = none
  unpopulated : v.populated = []
  unmounted : v.pane.mounted = none

theorem Viewer.awaits_beginShow (v : Viewer) (object : ManagedObject)
    (reference : MessageReference) :
    (v.beginShow object reference).viewer.Awaits (v.beginShow object reference).result :=
  ⟨beq_self_eq_true _, rfl, rfl, v.pane.mounted_dispose⟩

namespace SteadyApi
variable (api : SteadyApi) (console : Console) (v : Viewer) (session : FetchScope)
  (earlier : List Show) (request : ShowRequest)

/-! The steps of the show that began last. -/

theorem advance_begun :
    api.advance console earlier.length ⟨v, session, earlier ++ [⟨request, .begun⟩]⟩ =
      ⟨v, session, earlier ++ [⟨request, .awaitingInfo (request.fetch session)⟩]⟩ := by
  simp [advance, nextAction?, SharedViewer.step, ShowRequest.fetch]

theorem advance_awaitingInfo (fetch : InfoFetch) :
    api.advance console earlier.length ⟨v, session, earlier ++ [⟨request, .awaitingInfo fetch⟩]⟩ =
      ⟨v, (fetch.answer session (api.answerInfo fetch)).session, earlier ++
        [⟨request, SharedViewer.stageOf (fetch.answer session (api.answerInfo fetch)).next⟩]⟩ := by
  simp [advance, nextAction?, SharedViewer.step]

theorem advance_infoArrived (answer : Except ApiError FetchedInfo) :
    api.advance console earlier.length ⟨v, session, earlier ++ [⟨request, .infoArrived answer⟩]⟩ =
      ⟨(v.completeInfo console request answer).viewer, session, earlier ++
        [⟨request, SharedViewer.stageAfterInfo request.token
          (v.completeInfo console request answer).result⟩]⟩ := by
  simp [advance, nextAction?, SharedViewer.step]

theorem advance_awaitingContent (plan : PreviewRequest) :
    api.advance console earlier.length ⟨v, session, earlier ++ [⟨request, .awaitingContent plan⟩]⟩ =
      ⟨v, session, earlier ++ [⟨request, .contentArrived plan
        (plan.fetch.receive (api.answerContent plan.fetch))⟩]⟩ := by
  simp [advance, nextAction?, SharedViewer.step]

theorem advance_contentArrived (plan : PreviewRequest) (answer : Except ApiError ContentPayload) :
    api.advance console earlier.length
        ⟨v, session, earlier ++ [⟨request, .contentArrived plan answer⟩]⟩ =
      ⟨(v.completePreview console plan answer).viewer, session, earlier ++
        [⟨request, .finished (SharedViewer.outcomeAfterPreview request.token
          (v.completePreview console plan answer).result)⟩]⟩ := by
  simp [advance, nextAction?, SharedViewer.step]

theorem advance_of_rendering {s : SharedViewer} {i : Nat} {rendering : Rendering}
    (h : s.rendering? i = some rendering) : api.advance console i s = s := by
  simp only [SharedViewer.rendering?] at h
  split at h
  · rename_i outcome finished
    simp only [advance, nextAction?, finished]
  · cases h

/-- A show that has begun ends up with its final answer, having asked twice if it was refused. -/
theorem leads_infoArrived :
    api.Leads console earlier.length 3 ⟨v, session, earlier ++ [⟨request, .begun⟩]⟩
      ⟨v, (api.settle (request.fetch session)).1,
        earlier ++ [⟨request, .infoArrived (api.settle (request.fetch session)).2⟩]⟩ := by
  refine .step ?_
  rw [advance_begun]
  refine .step ?_
  rw [advance_awaitingInfo]
  by_cases refused :
      InfoExchange.Refused ⟨request.fetch session, api.answerInfo (request.fetch session)⟩
  · rw [api.settle_of_refused refused, InfoFetch.answer_of_refused refused, SharedViewer.stageOf]
    refine .step ?_
    rw [advance_awaitingInfo,
      InfoFetch.answer_of_not_refused (InfoFetch.withoutHeaders_not_refused _ _)]
    exact .refl _
  · rw [api.settle_of_not_refused refused, InfoFetch.answer_of_not_refused refused]
    exact .refl _

variable {v request}

theorem leads_ofModel {model : Present.Model} {plan : PreviewRequest}
    (current : v.isCurrent plan.token = true) (phase : v.phase = .shown)
    (rendered : v.model = some model) (populated : v.populated = model.fields.map (·.slot)) :
    ∃ t, api.Leads console earlier.length 2
        ⟨v, session, earlier ++ [⟨request, .awaitingContent plan⟩]⟩ t ∧
      t.rendering? earlier.length = some (.ofModel model
        (some (console.previewOf plan (plan.fetch.receive (api.answerContent plan.fetch))))
        session) := by
  refine ⟨_, .step (.step (.refl _)), ?_⟩
  rw [advance_awaitingContent, advance_contentArrived]
  generalize plan.fetch.receive (api.answerContent plan.fetch) = answer
  obtain ⟨hresult, hmounted⟩ := Viewer.completePreview_current console current answer
  obtain ⟨pane, hpane⟩ := Viewer.completePreview_pane console v plan answer
  rw [hpane] at hmounted
  rw [SharedViewer.rendering?, SharedViewer.stage_concat, hresult, hpane]
  cases hpreview : console.previewOf plan answer <;>
    simp_all [Rendering.ofModel, SharedViewer.outcomeAfterPreview, ShowOutcome.unnumbered,
      PreviewTransition.unnumbered]

theorem leads_leaves (awaits : v.Awaits request) (answer : Except ApiError FetchedInfo) :
    ∃ t, api.Leads console earlier.length 3
        ⟨v, session, earlier ++ [⟨request, .infoArrived answer⟩]⟩ t ∧
      t.rendering? earlier.length =
        some (api.leaves console request.object request.reference session answer) := by
  have arrived := api.advance_infoArrived console v session earlier request answer
  cases answer with
  | error e =>
    rw [Viewer.completeInfo_error awaits.current] at arrived
    refine ⟨_, .step (.refl _), ?_⟩
    rw [arrived]
    simp [SharedViewer.rendering?, SharedViewer.stageAfterInfo, leaves, ShowOutcome.unnumbered,
      awaits.unrendered, awaits.unpopulated, awaits.unmounted]
  | ok fetched =>
    rw [Viewer.completeInfo_ok awaits.current] at arrived
    rw [leaves_ok]
    cases hplan : Viewer.previewRequest request (Viewer.modelOf console request fetched) with
    | none =>
      rw [hplan] at arrived
      refine ⟨_, .step (.refl _), ?_⟩
      rw [arrived]
      simp [SharedViewer.rendering?, SharedViewer.stageAfterInfo, ShowOutcome.unnumbered,
        awaits.unmounted, Rendering.ofModel]
    | some plan =>
      rw [hplan] at arrived
      obtain ⟨-, -, -, planned⟩ := Viewer.previewRequest_eq_some.mp hplan
      have current : v.isCurrent plan.token = true := by
        rw [planned]
        exact awaits.current
      let shown : Viewer :=
        { v with
          phase := .shown
          model := some (Viewer.modelOf console request fetched)
          populated := (Viewer.modelOf console request fetched).fields.map (·.slot) }
      have hcurrent : shown.isCurrent plan.token = true := current
      obtain ⟨t, leads, rendering⟩ := api.leads_ofModel console session earlier hcurrent rfl rfl rfl
      refine ⟨t, .step ?_, rendering⟩
      rw [arrived]
      exact leads

theorem show_of_nextAction {s : SharedViewer} {i : Nat} {action : SharedViewer.Action}
    (h : api.nextAction? s i = some action) : action.show? = some i := by
  simp only [nextAction?] at h
  split at h <;> cases h <;> rfl

/-- A show from its beginning to its end is a run in which no other show takes a step. -/
theorem exists_run_eq_showAlone (s : SharedViewer) (object : ManagedObject)
    (reference : MessageReference) :
    ∃ actions, (∀ action ∈ actions, action.show? = some s.shows.length) ∧
      (s.run console (.begin object reference :: actions)).1 =
        api.showAlone console s object reference := by
  have course (n : Nat) (t : SharedViewer) :
      ∃ actions, (∀ action ∈ actions, action.show? = some s.shows.length) ∧
        (t.run console actions).1 = (api.advance console s.shows.length)^[n] t := by
    induction n generalizing t with
    | zero => exact ⟨[], nofun, rfl⟩
    | succ n ih =>
      rw [Function.iterate_succ_apply]
      cases hnext : api.nextAction? t s.shows.length with
      | none =>
        have still : api.advance console s.shows.length t = t := by
          simp only [advance, hnext]
        rw [still]
        exact ih t
      | some action =>
        have moved : api.advance console s.shows.length t = (t.step console action).1 := by
          simp only [advance, hnext]
        obtain ⟨actions, own, hrun⟩ := ih (t.step console action).1
        refine ⟨action :: actions, ?_, ?_⟩
        · rw [List.forall_mem_cons]
          exact ⟨api.show_of_nextAction hnext, own⟩
        · rw [moved, ← hrun]
          rfl
  exact course longestCourse (s.step console (.begin object reference)).1

/-- A show that nothing disturbs finishes, and what it leaves is settled by its message, the
interface and the scope of the session. -/
theorem rendering_showAlone (s : SharedViewer) (object : ManagedObject)
    (reference : MessageReference) :
    (api.showAlone console s object reference).rendering? s.shows.length =
      some (api.rendering console object reference s.session) := by
  have begun := s.viewer.awaits_beginShow object reference
  have arrives := api.leads_infoArrived console (s.viewer.beginShow object reference).viewer s.session
    s.shows (s.viewer.beginShow object reference).result
  obtain ⟨t, finishes, rendering⟩ := api.leads_leaves console _ s.shows begun _
  have alone : api.showAlone console s object reference = t :=
    (arrives.trans finishes).eq_iterate (api.advance_of_rendering console rendering)
  rw [alone]
  exact rendering

/-- Run once more with nothing in between, a show ends in the same way and leaves the same phase,
model, populated slots, preview and scope of the session. -/
theorem showAlone_twice (s : SharedViewer) (object : ManagedObject) (reference : MessageReference) :
    let first := api.showAlone console s object reference
    let second := api.showAlone console first object reference
    let left := api.rendering console object reference s.session
    first.rendering? s.shows.length = some left ∧ second.rendering? first.shows.length = some left := by
  intro first second left
  have once := api.rendering_showAlone console s object reference
  have again := api.rendering_showAlone console first object reference
  refine ⟨once, ?_⟩
  rw [again, SharedViewer.session_of_rendering once, rendering_again]

end SteadyApi
end MessageInspector
