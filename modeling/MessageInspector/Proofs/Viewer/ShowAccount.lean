import MessageInspector.Proofs.Viewer.Supersession
/-!
# The account of a show

However shows interleave, each keeps to its own course: it fetches its message info, and if a
preview is planned of that info, it fetches content once. What the history of a run says of a show
is what the show's own stage says of it.
-/
namespace MessageInspector

def ShowStage.pending : ShowStage → List Call
  | .awaitingInfo fetch => [fetch.call]
  | .awaitingContent preview => [preview.fetch.call]
  | _ => []

def ShowStage.applied : ShowStage → Bool
  | .begun => false
  | .awaitingInfo _ => false
  | .infoArrived _ => false
  | _ => true

def ShowStage.previewing : ShowStage → Bool
  | .awaitingContent _ => true
  | .contentArrived _ _ => true
  | _ => false

namespace ShowRequest

def Answered (request : ShowRequest) (infos : List InfoExchange)
    (answer : Except ApiError FetchedInfo) : Prop :=
  ∃ scope, InfoFetch.Course (request.fetch scope) infos (.done answer)

def Planned (console : Console) (request : ShowRequest) (infos : List InfoExchange)
    (preview : PreviewRequest) : Prop :=
  ∃ fetched, request.Answered infos (.ok fetched) ∧
    Viewer.previewRequest request (Viewer.modelOf console request fetched) = some preview

/-- How far a show has come: the exchanges behind it, and its stage. -/
inductive Course (console : Console) (request : ShowRequest) :
    List InfoExchange → List ContentExchange → ShowStage → Prop
  | begun : Course console request [] [] .begun
  | asking {scope infos fetch}
      (underway : InfoFetch.Course (request.fetch scope) infos (.again fetch)) :
      Course console request infos [] (.awaitingInfo fetch)
  | informed {infos answer} (answered : request.Answered infos answer) :
      Course console request infos [] (.infoArrived answer)
  | ended {infos answer} (outcome) (answered : request.Answered infos answer) :
      Course console request infos [] (.finished outcome)
  | planned {infos preview} (planned : request.Planned console infos preview) :
      Course console request infos [] (.awaitingContent preview)
  | delivered {infos preview} (answer) (planned : request.Planned console infos preview) :
      Course console request infos [⟨preview.fetch, answer⟩]
        (.contentArrived preview (preview.fetch.receive answer))
  | closed {infos preview} (answer outcome) (planned : request.Planned console infos preview) :
      Course console request infos [⟨preview.fetch, answer⟩] (.finished outcome)

variable {console : Console} {request : ShowRequest} {infos : List InfoExchange}

theorem Course.requestInfo {contents : List ContentExchange}
    (h : request.Course console infos contents .begun) (scope : FetchScope) :
    request.Course console infos contents (.awaitingInfo (request.fetch scope)) := by
  cases h with
  | begun => exact .asking .asked

theorem Course.infos_of_begun {contents : List ContentExchange}
    (h : request.Course console infos contents .begun) : infos = [] := by
  cases h with
  | begun => rfl

theorem Course.contents_of_awaitingInfo {contents : List ContentExchange} {fetch : InfoFetch}
    (h : request.Course console infos contents (.awaitingInfo fetch)) : contents = [] := by
  cases h with
  | asking underway => rfl

theorem Course.answered_of_infoArrived {contents : List ContentExchange}
    {answer : Except ApiError FetchedInfo}
    (h : request.Course console infos contents (.infoArrived answer)) :
    request.Answered infos answer := by
  cases h with
  | informed answered => exact answered

theorem Course.answered_of_applied {contents : List ContentExchange} {stage : ShowStage}
    (h : request.Course console infos contents stage) (applied : stage.applied = true) :
    ∃ answer, request.Answered infos answer := by
  cases h with
  | begun => cases applied
  | asking underway => cases applied
  | informed answered => exact ⟨_, answered⟩
  | ended outcome answered => exact ⟨_, answered⟩
  | planned planned | delivered answer planned | closed answer outcome planned =>
    obtain ⟨fetched, answered, -⟩ := planned
    exact ⟨_, answered⟩

theorem Planned.token {preview : PreviewRequest} (h : request.Planned console infos preview) :
    preview.token = request.token := by
  obtain ⟨fetched, -, hplan⟩ := h
  simp only [Viewer.previewRequest] at hplan
  split at hplan
  · rw [← Option.some.inj hplan]
  · cases hplan

theorem Course.token_of_contentArrived {contents : List ContentExchange} {preview : PreviewRequest}
    {answer : Except ApiError ContentPayload}
    (h : request.Course console infos contents (.contentArrived preview answer)) :
    preview.token = request.token := by
  cases h with
  | delivered answer planned => exact planned.token

theorem Course.answerInfo {contents : List ContentExchange} {fetch : InfoFetch}
    (h : request.Course console infos contents (.awaitingInfo fetch)) (session : FetchScope)
    (answer : Except ApiError MessageInfo) :
    request.Course console (infos ++ [⟨fetch, answer⟩]) contents
      (SharedViewer.stageOf (fetch.answer session answer).next) := by
  cases h with
  | asking underway =>
    have hnext := underway.answer session answer
    generalize (fetch.answer session answer).next = next at hnext ⊢
    cases next with
    | again fetch => exact .asking hnext
    | done answer => exact .informed ⟨_, hnext⟩

theorem Course.completeInfo {contents : List ContentExchange}
    {answer : Except ApiError FetchedInfo}
    (h : request.Course console infos contents (.infoArrived answer)) (v : Viewer) :
    request.Course console infos contents
      (SharedViewer.stageAfterInfo request.token
        (v.completeInfo console request answer).result) := by
  cases h with
  | informed answered =>
    simp only [Viewer.completeInfo]
    split
    · cases answer with
      | error e => exact .ended _ answered
      | ok fetched =>
        simp only
        cases hplan : Viewer.previewRequest request (Viewer.modelOf console request fetched) with
        | none => exact .ended _ answered
        | some preview => exact .planned ⟨fetched, answered, hplan⟩
    · exact .ended _ answered

theorem Course.answerContent {contents : List ContentExchange} {preview : PreviewRequest}
    (h : request.Course console infos contents (.awaitingContent preview))
    (answer : Except ApiError ContentPayload) :
    request.Course console infos (contents ++ [⟨preview.fetch, answer⟩])
      (.contentArrived preview (preview.fetch.receive answer)) := by
  cases h with
  | planned planned => exact .delivered answer planned

theorem Course.completePreview {contents : List ContentExchange} {preview : PreviewRequest}
    {answer : Except ApiError ContentPayload}
    (h : request.Course console infos contents (.contentArrived preview answer))
    (outcome : ShowOutcome) : request.Course console infos contents (.finished outcome) := by
  cases h with
  | delivered answer planned => exact .closed answer outcome planned

end ShowRequest

theorem Event.calls_reported (reports : List Report) : Event.calls (reports.map .reported) = [] := by
  induction reports with
  | nil => rfl
  | cons report rest ih => exact ih

namespace SharedViewer

theorem calls_completeInfo (reports : List Report) (token : Nat) (transition : InfoTransition) :
    Event.calls (reports.map .reported ++ eventsAfterInfo transition) =
      (stageAfterInfo token transition).pending := by
  rw [Event.calls, List.filterMap_append, ← Event.calls, Event.calls_reported, List.nil_append]
  cases transition with
  | shown preview => cases preview <;> rfl
  | failed e => rfl
  | stale => rfl

theorem infoExchange_of_show_ne {m : Moment SharedViewer Action} {i : Nat}
    (h : m.action.show? ≠ some i) : infoExchange? i m = none := by
  apply Option.eq_none_iff_forall_ne_some.mpr
  intro x hx
  obtain ⟨request, haction, -⟩ := infoExchange?_eq_some.mp hx
  rw [haction] at h
  exact h rfl

theorem contentExchange_of_show_ne {m : Moment SharedViewer Action} {i : Nat}
    (h : m.action.show? ≠ some i) : contentExchange? i m = none := by
  apply Option.eq_none_iff_forall_ne_some.mpr
  intro x hx
  obtain ⟨request, preview, haction, -⟩ := contentExchange?_eq_some.mp hx
  rw [haction] at h
  exact h rfl

theorem exchange_of_outOfTurn {s : SharedViewer} {action : Action} (out : s.OutOfTurn action)
    (i : Nat) : infoExchange? i ⟨s, action⟩ = none ∧ contentExchange? i ⟨s, action⟩ = none := by
  constructor
  · apply Option.eq_none_iff_forall_ne_some.mpr
    intro x hx
    obtain ⟨request, rfl, ready⟩ := infoExchange?_eq_some.mp hx
    exact out request x.fetch ready
  · apply Option.eq_none_iff_forall_ne_some.mpr
    intro x hx
    obtain ⟨request, preview, rfl, ready, -⟩ := contentExchange?_eq_some.mp hx
    exact out request preview ready

/-- The history of a run accounts for a show: its exchanges lead to its stage, and its calls are the
answered ones followed by the one under way. -/
structure AccountedAs (console : Console) (actions : List Action) (i : Nat) (shown : Show) :
    Prop where
  course : shown.request.Course console (infoExchanges console actions i)
    (contentExchanges console actions i) shown.stage
  calls : calls console actions i = (infoExchanges console actions i).map (·.fetch.call) ++
    (contentExchanges console actions i).map (·.fetch.call) ++ shown.stage.pending

structure Accounted (console : Console) (actions : List Action) : Prop where
  absent : ∀ i, (reached console actions).shows.length ≤ i →
    infoExchanges console actions i = [] ∧ contentExchanges console actions i = [] ∧
      calls console actions i = []
  present : ∀ i shown, (reached console actions).shows[i]? = some shown →
    AccountedAs console actions i shown

section Steps
variable {console : Console} {actions : List Action} {action : Action} {i : Nat}

theorem infoExchanges_of_none (h : infoExchange? i ⟨reached console actions, action⟩ = none) :
    infoExchanges console (actions ++ [action]) i = infoExchanges console actions i := by
  rw [infoExchanges_concat, h]
  exact List.append_nil _

theorem contentExchanges_of_none
    (h : contentExchange? i ⟨reached console actions, action⟩ = none) :
    contentExchanges console (actions ++ [action]) i = contentExchanges console actions i := by
  rw [contentExchanges_concat, h]
  exact List.append_nil _

theorem histories_of_ne (console : Console) (actions : List Action)
    (h : action.show? ≠ some i) :
    infoExchanges console (actions ++ [action]) i = infoExchanges console actions i ∧
      contentExchanges console (actions ++ [action]) i = contentExchanges console actions i ∧
      calls console (actions ++ [action]) i = calls console actions i := by
  refine ⟨?_, ?_, ?_⟩
  · exact infoExchanges_of_none (infoExchange_of_show_ne h)
  · exact contentExchanges_of_none (contentExchange_of_show_ne h)
  · rw [calls_concat, if_neg h, List.append_nil]

private theorem AccountedAs.of_ne {shown : Show} (h : AccountedAs console actions i shown)
    (hne : action.show? ≠ some i) : AccountedAs console (actions ++ [action]) i shown := by
  obtain ⟨hinfos, hcontents, hcalls⟩ := histories_of_ne console actions hne
  constructor
  · rw [hinfos, hcontents]
    exact h.course
  · rw [hinfos, hcontents, hcalls]
    exact h.calls

/-- A step that moves one show leaves the account of the others as it is. -/
private theorem Accounted.move {n : Nat} {old : Show} {after : SharedViewer} {stage : ShowStage}
    (h : Accounted console actions) (mine : action.show? = some n)
    (found : (reached console actions).shows[n]? = some old)
    (hstep : (step console (reached console actions) action).1 = after.setStage n stage)
    (hshows : after.shows = (reached console actions).shows)
    (moved : AccountedAs console actions n old →
      AccountedAs console (actions ++ [action]) n ⟨old.request, stage⟩) :
    Accounted console (actions ++ [action]) := by
  have hn := (List.getElem?_eq_some_iff.mp found).1
  constructor
  · intro i hi
    rw [reached_concat, hstep, length_setStage, hshows] at hi
    have hne : action.show? ≠ some i := by
      rw [mine, ne_eq, Option.some.injEq]
      omega
    obtain ⟨hinfos, hcontents, hcalls⟩ :=
      histories_of_ne console actions hne
    rw [hinfos, hcontents, hcalls]
    exact h.absent i hi
  · intro i shown hi
    rw [reached_concat, hstep, getElem?_setStage, hshows] at hi
    by_cases hni : n = i
    · subst hni
      rw [if_pos rfl, found] at hi
      obtain rfl := Option.some.inj hi
      exact moved (h.present n old found)
    · rw [if_neg hni] at hi
      apply (h.present i shown hi).of_ne
      rw [mine]
      exact fun e => hni (Option.some.inj e)

private theorem Accounted.begin (h : Accounted console actions) (object : ManagedObject)
    (reference : MessageReference) : Accounted console (actions ++ [.begin object reference]) := by
  have hshows : (reached console (actions ++ [.begin object reference])).shows =
      (reached console actions).shows ++
        [⟨((reached console actions).viewer.beginShow object reference).result, .begun⟩] := by
    rw [reached_concat]
    rfl
  have hne (i : Nat) : Action.show? (.begin object reference) ≠ some i := nofun
  have hhistories (i : Nat) := histories_of_ne console actions (hne i)
  constructor
  · intro i hi
    rw [hshows, List.length_append] at hi
    obtain ⟨hinfos, hcontents, hcalls⟩ := hhistories i
    rw [hinfos, hcontents, hcalls]
    apply h.absent
    omega
  · intro i shown hi
    rw [hshows, getElem?_concat_eq_some] at hi
    rcases hi with hi | ⟨rfl, rfl⟩
    · exact (h.present i shown hi).of_ne nofun
    · obtain ⟨hinfos, hcontents, hcalls⟩ := hhistories (reached console actions).shows.length
      obtain ⟨noInfos, noContents, noCalls⟩ := h.absent _ (Nat.le_refl _)
      constructor
      · rw [hinfos, hcontents, noInfos, noContents]
        exact .begun
      · rw [hinfos, hcontents, hcalls, noInfos, noContents, noCalls]
        rfl

private theorem Accounted.of_still (h : Accounted console actions)
    (hshows : (reached console (actions ++ [action])).shows = (reached console actions).shows)
    (still : ∀ i, infoExchange? i ⟨reached console actions, action⟩ = none ∧
      contentExchange? i ⟨reached console actions, action⟩ = none)
    (silent : Event.calls (step console (reached console actions) action).2 = []) :
    Accounted console (actions ++ [action]) := by
  have hinfos (i : Nat) := infoExchanges_of_none (still i).1
  have hcontents (i : Nat) := contentExchanges_of_none (still i).2
  have hcalls (i : Nat) : calls console (actions ++ [action]) i = calls console actions i := by
    rw [calls_concat, silent, ite_self, List.append_nil]
  constructor
  · intro i hi
    rw [hinfos, hcontents, hcalls]
    rw [hshows] at hi
    exact h.absent i hi
  · intro i shown hi
    rw [hshows] at hi
    constructor
    · rw [hinfos, hcontents]
      exact (h.present i shown hi).course
    · rw [hinfos, hcontents, hcalls]
      exact (h.present i shown hi).calls

/-- A step of the show itself takes its account further, if it takes the show further on its course
and leaves no call unaccounted for. -/
private theorem AccountedAs.step {old : Show} {stage : ShowStage}
    (h : AccountedAs console actions i old) (infos : List InfoExchange)
    (contents : List ContentExchange)
    (mine : action.show? = some i)
    (hinfos : (infoExchange? i ⟨reached console actions, action⟩).toList = infos)
    (hcontents : (contentExchange? i ⟨reached console actions, action⟩).toList = contents)
    (course : old.request.Course console (infoExchanges console actions i ++ infos)
      (contentExchanges console actions i ++ contents) stage)
    (hcalls : (contentExchanges console actions i).map (·.fetch.call) ++ old.stage.pending ++
      Event.calls (SharedViewer.step console (reached console actions) action).2 =
        infos.map (·.fetch.call) ++
          (contentExchanges console actions i ++ contents).map (·.fetch.call) ++ stage.pending) :
    AccountedAs console (actions ++ [action]) i ⟨old.request, stage⟩ := by
  constructor
  · rw [infoExchanges_concat, contentExchanges_concat, hinfos, hcontents]
    exact course
  · rw [infoExchanges_concat, contentExchanges_concat, calls_concat, hinfos, hcontents, if_pos mine,
      h.calls, List.map_append, List.append_assoc _ (infos.map _), List.append_assoc _ _ stage.pending,
      ← hcalls]
    simp only [List.append_assoc]

end Steps

theorem accounted (console : Console) (actions : List Action) : Accounted console actions := by
  induction actions using List.reverseRecOn with
  | nil =>
    constructor
    · intro i _
      exact ⟨rfl, rfl, rfl⟩
    · intro i shown h
      simp [reached, run, initial] at h
  | append_singleton actions action ih =>
    have hreached := reached_concat console actions action
    have turn := turn_step console (reached console actions) action
    generalize hs : (step console (reached console actions) action).1 = after,
      he : (step console (reached console actions) action).2 = events at turn
    cases turn with
    | begin object reference => exact ih.begin object reference
    | requestInfo ready =>
      apply ih.move rfl ready hs rfl
      intro h
      apply h.step [] [] rfl rfl rfl
      · rw [List.append_nil, List.append_nil]
        exact h.course.requestInfo _
      · rw [he, InfoFetch.calls_events]
        simp only [ShowStage.pending, List.map_nil, List.nil_append, List.append_nil]
    | @answerInfo n request fetch answer ready =>
      apply ih.move rfl ready hs rfl
      intro h
      have hinfos : infoExchange? n ⟨reached console actions, .answerInfo n answer⟩ =
          some ⟨fetch, answer⟩ :=
        infoExchange?_eq_some.mpr ⟨request, rfl, ready⟩
      apply h.step [⟨fetch, answer⟩] [] rfl (congrArg Option.toList hinfos) rfl
      · rw [List.append_nil]
        exact h.course.answerInfo _ answer
      · rw [he, h.course.contents_of_awaitingInfo, InfoFetch.calls_answer]
        cases (fetch.answer (reached console actions).session answer).next <;> rfl
    | @completeInfo n request answer ready =>
      apply ih.move rfl ready hs rfl
      intro h
      apply h.step [] [] rfl rfl rfl
      · rw [List.append_nil, List.append_nil]
        exact h.course.completeInfo _
      · rw [he, calls_completeInfo _ request.token]
        simp only [ShowStage.pending, List.map_nil, List.nil_append, List.append_nil]
    | @answerContent n request preview answer ready =>
      apply ih.move rfl ready hs rfl
      intro h
      have hcontents : contentExchange? n ⟨reached console actions, .answerContent n answer⟩ =
          some ⟨preview.fetch, answer⟩ :=
        contentExchange?_eq_some.mpr ⟨request, preview, rfl, ready, rfl⟩
      apply h.step [] [⟨preview.fetch, answer⟩] rfl rfl (congrArg Option.toList hcontents)
      · rw [List.append_nil]
        exact h.course.answerContent answer
      · rw [he, Event.calls_reported, List.map_append]
        rfl
    | completePreview ready =>
      apply ih.move rfl ready hs rfl
      intro h
      apply h.step [] [] rfl rfl rfl
      · rw [List.append_nil, List.append_nil]
        exact h.course.completePreview _
      · rw [he, Event.calls_reported]
        simp only [ShowStage.pending, List.map_nil, List.nil_append, List.append_nil]
    | hide =>
      apply ih.of_still
      · rw [hreached, hs]
      · intro i
        exact ⟨rfl, rfl⟩
      · rw [he]
        rfl
    | idle out =>
      apply ih.of_still
      · rw [hreached, hs]
      · exact exchange_of_outOfTurn out
      · rw [he]
        rfl

end SharedViewer
end MessageInspector
