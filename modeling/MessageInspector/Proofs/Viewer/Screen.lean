import MessageInspector.Proofs.Viewer.ShowAccount
/-!
# What is on the screen

Whatever is on the screen was fetched by the newest show. The phase tells how far that show has come
and whether something has overtaken it.
-/
namespace MessageInspector

namespace ShowRequest
variable {request : ShowRequest} {infos : List InfoExchange}

theorem Answered.getLast {answer : Except ApiError FetchedInfo} (h : request.Answered infos answer) :
    ∃ scope last, infos.getLast? = some ⟨request.fetch scope, last⟩ ∧
      answer = InfoExchange.result ⟨request.fetch scope, last⟩ := by
  obtain ⟨scope, course⟩ := h
  cases course with
  | @answered last final => exact ⟨scope, last, rfl, rfl⟩
  | @retried first last refused => exact ⟨.headersExcluded, last, rfl, rfl⟩

theorem Answered.unique {answer other : Except ApiError FetchedInfo}
    (h : request.Answered infos answer) (h' : request.Answered infos other) : answer = other := by
  obtain ⟨scope, last, hlast, rfl⟩ := h.getLast
  obtain ⟨scope', last', hlast', rfl⟩ := h'.getLast
  rw [hlast, Option.some.injEq] at hlast'
  rw [hlast']

theorem Answered.getLast_ok {fetched : FetchedInfo} (h : request.Answered infos (.ok fetched)) :
    infos.getLast? = some ⟨request.fetch fetched.scope, .ok fetched.info⟩ := by
  obtain ⟨scope, last, hlast, hresult⟩ := h.getLast
  obtain ⟨hok, rfl⟩ := InfoExchange.result_eq_ok.mp hresult.symm
  obtain rfl : last = .ok fetched.info := hok
  exact hlast

theorem Answered.eq_ok_iff {answer : Except ApiError FetchedInfo} (h : request.Answered infos answer)
    (info : MessageInfo) (scope : FetchScope) :
    answer = .ok ⟨info, scope⟩ ↔ infos.getLast? = some ⟨request.fetch scope, .ok info⟩ := by
  constructor
  · rintro rfl
    exact h.getLast_ok
  · intro hlast
    obtain ⟨scope', last, hlast', rfl⟩ := h.getLast
    rw [hlast, Option.some.injEq] at hlast'
    rw [← hlast']
    rfl

end ShowRequest

theorem ShowRequest.Planned.info {console : Console} {request : ShowRequest}
    {infos : List InfoExchange} {preview : PreviewRequest}
    (h : request.Planned console infos preview) :
    ∃ info, infos.getLast? = some ⟨request.fetch .headersIncluded, .ok info⟩ ∧
      Content.isPreviewable info.mimeType = true ∧ info.mimeType = some preview.mimeType ∧
      preview = ⟨request.token, request.object, info.id, preview.mimeType,
        console.presenter.previewLimit, info.sizeBytes⟩ := by
  obtain ⟨fetched, answered, hplan⟩ := h
  obtain ⟨hconfidential, hpreviewable, hmime, hpreview⟩ := Viewer.previewRequest_eq_some.mp hplan
  have hlast := answered.getLast_ok
  rw [fetched.scope_of_includesConfidential hconfidential] at hlast
  exact ⟨fetched.info, hlast, hpreviewable, hmime, hpreview⟩

def Show.Previewed (console : Console) (shown : Show) (infos : List InfoExchange)
    (contents : List ContentExchange) (content : Preview.ContentPreview) : Prop :=
  ∃ plan payload body outcome, shown.stage = .finished outcome ∧
    shown.request.Planned console infos plan ∧ contents = [⟨plan.fetch, .ok payload⟩] ∧
    Content.decodeOrText plan.mimeType (payload.cut plan.limit).bytes = .ok body ∧
    content = console.presenter.preview body plan.limit plan.totalBytes

/-- What a viewer has on the screen, told by how far the newest show has come, by what it has
fetched and by whether something has overtaken it. -/
structure Viewer.Presents (console : Console) (v : Viewer) (shown : Show)
    (infos : List InfoExchange) (contents : List ContentExchange) (overtaken : Prop) : Prop where
  model : ∀ model, v.model = some model → shown.stage.applied = true ∧
    ∃ fetched, shown.request.Answered infos (.ok fetched) ∧
      model = Viewer.modelOf console shown.request fetched
  applied : ¬ overtaken → shown.stage.applied = true → ∀ fetched,
    shown.request.Answered infos (.ok fetched) → v.model.isSome = true
  populated : v.populated = (v.model.map (·.fields.map (·.slot))).getD []
  mounted : ∀ mounted, v.pane.mounted = some mounted →
    shown.Previewed console infos contents mounted.preview
  underModel : shown.stage.previewing = true ∨ v.pane.mounted ≠ none → v.model ≠ none
  loading : v.phase = .loading ↔ ¬ overtaken ∧ shown.stage.applied = false
  shown : v.phase = .shown ↔ ¬ overtaken ∧ v.model.isSome = true

namespace Viewer.Presents
variable {console : Console} {v : Viewer} {request : ShowRequest} {stage : ShowStage}
  {infos : List InfoExchange} {contents : List ContentExchange} {overtaken : Prop}

private theorem begin (v : Viewer) (object : ManagedObject) (reference : MessageReference)
    (fresh : ¬ overtaken) :
    (v.beginShow object reference).viewer.Presents console
      ⟨(v.beginShow object reference).result, .begun⟩ infos contents overtaken where
  model := by
    intro model h
    cases h
  applied := nofun
  populated := rfl
  mounted := by
    intro mounted h
    rw [beginShow, v.pane.mounted_dispose] at h
    cases h
  underModel := by
    rintro (h | h)
    · cases h
    · exact absurd v.pane.mounted_dispose h
  loading := by simp [beginShow, fresh, ShowStage.applied]
  shown := by simp [beginShow]

theorem blank (h : v.Presents console ⟨request, stage⟩ infos contents overtaken)
    (unapplied : stage.applied = false) :
    v.model = none ∧ v.populated = [] ∧ v.pane.mounted = none := by
  have hmodel : v.model = none := by
    rw [Option.eq_none_iff_forall_ne_some]
    intro model hm
    have happlied := (h.model model hm).1
    rw [unapplied] at happlied
    cases happlied
  refine ⟨hmodel, ?_, ?_⟩
  · rw [h.populated, hmodel]
    rfl
  · rw [Option.eq_none_iff_forall_ne_some]
    intro mounted hm
    obtain ⟨plan, payload, body, outcome, hstage, -⟩ := h.mounted mounted hm
    obtain rfl : stage = .finished outcome := hstage
    cases unapplied

private theorem fetching (h : v.Presents console ⟨request, stage⟩ infos contents overtaken)
    (unfinished : ∀ outcome, stage ≠ .finished outcome) {next : ShowStage}
    (applied : next.applied = stage.applied) (previewing : next.previewing = stage.previewing)
    {moreInfos : List InfoExchange}
    (settled : stage.applied = true → moreInfos = infos) (moreContents : List ContentExchange) :
    v.Presents console ⟨request, next⟩ moreInfos moreContents overtaken where
  model := by
    intro model hm
    obtain ⟨happlied, hfetched⟩ := h.model model hm
    rw [settled happlied]
    exact ⟨applied.trans happlied, hfetched⟩
  applied := by
    intro hover happlied
    rw [settled (applied.symm.trans happlied)]
    exact h.applied hover (applied.symm.trans happlied)
  populated := h.populated
  mounted := by
    intro mounted hm
    obtain ⟨plan, payload, body, outcome, hstage, -⟩ := h.mounted mounted hm
    exact absurd hstage (unfinished outcome)
  underModel := by
    simp only [previewing]
    exact h.underModel
  loading := by
    rw [h.loading]
    simp only [applied]
  shown := h.shown

private theorem completeInfo {answer : Except ApiError FetchedInfo}
    (h : v.Presents console ⟨request, .infoArrived answer⟩ infos contents overtaken)
    (current : v.isCurrent request.token = true ↔ ¬ overtaken)
    (answered : request.Answered infos answer) :
    (v.completeInfo console request answer).viewer.Presents console
      ⟨request, SharedViewer.stageAfterInfo request.token
        (v.completeInfo console request answer).result⟩ infos contents overtaken := by
  obtain ⟨hmodel, hpopulated, hmounted⟩ := h.blank rfl
  by_cases hc : v.isCurrent request.token = true
  · have hover := current.mp hc
    cases answer with
    | error e =>
      rw [completeInfo_error hc, SharedViewer.stageAfterInfo]
      constructor
      · intro model hm
        simp [hmodel] at hm
      · intro _ _ fetched hok
        cases answered.unique hok
      · simp [hmodel, hpopulated]
      · intro mounted hm
        simp [hmounted] at hm
      · simp [ShowStage.previewing, hmounted]
      · simp [ShowStage.applied]
      · simp [hmodel]
    | ok fetched =>
      rw [completeInfo_ok hc]
      have happlied : (SharedViewer.stageAfterInfo request.token
          (.shown (previewRequest request (modelOf console request fetched)))).applied = true := by
        cases previewRequest request (modelOf console request fetched) <;> rfl
      constructor
      · intro model hm
        obtain rfl := Option.some.inj hm
        exact ⟨happlied, fetched, answered, rfl⟩
      · intro _ _ _ _
        rfl
      · rfl
      · intro mounted hm
        simp [hmounted] at hm
      · intro _
        exact Option.some_ne_none _
      · simp [happlied]
      · simp [hover]
  · have hover : overtaken := by
      by_contra hno
      exact hc (current.mpr hno)
    rw [completeInfo_stale hc]
    constructor
    · intro model hm
      simp [hmodel] at hm
    · intro hno
      exact absurd hover hno
    · exact h.populated
    · intro mounted hm
      simp [hmounted] at hm
    · simp [SharedViewer.stageAfterInfo, ShowStage.previewing, hmounted]
    · rw [h.loading]
      simp [hover]
    · exact h.shown

private theorem completePreview {preview : PreviewRequest} {answer : Except ApiError ContentPayload}
    (h : v.Presents console ⟨request, .contentArrived preview answer⟩ infos contents overtaken)
    (course : request.Course console infos contents (.contentArrived preview answer))
    (outcome : ShowOutcome) :
    (v.completePreview console preview answer).viewer.Presents console
      ⟨request, .finished outcome⟩ infos contents overtaken := by
  have hmounted : ∀ mounted, (v.completePreview console preview answer).viewer.pane.mounted =
      some mounted → Show.Previewed console ⟨request, .finished outcome⟩ infos contents
        mounted.preview := by
    intro mounted hm
    by_cases hc : v.isCurrent preview.token = true
    · obtain ⟨payload, body, hanswer, hdecoded, hpreview⟩ := mounted_completePreview hc hm
      cases course with
      | delivered received planned =>
        cases received with
        | error e => cases hanswer
        | ok received =>
          obtain rfl := Except.ok.inj hanswer
          exact ⟨preview, received, body, outcome, rfl, planned, rfl, hdecoded, hpreview⟩
    · rw [completePreview_stale hc] at hm
      obtain ⟨plan, payload, body, other, hstage, -⟩ := h.mounted mounted hm
      cases hstage
  obtain ⟨pane, hpane⟩ := completePreview_pane console v preview answer
  rw [hpane] at hmounted ⊢
  exact ⟨h.model, h.applied, h.populated, hmounted, fun _ => h.underModel (.inl rfl), h.loading,
    h.shown⟩

private theorem hide {shown : Show} (h : v.Presents console shown infos contents overtaken)
    {overtaken' : Prop} (now : overtaken') :
    v.hide.Presents console shown infos contents overtaken' where
  model := h.model
  applied := by
    intro hno
    exact absurd now hno
  populated := h.populated
  mounted := h.mounted
  underModel := h.underModel
  loading := by simp [Viewer.hide, now]
  shown := by simp [Viewer.hide, now]

end Viewer.Presents

namespace SharedViewer
variable {console : Console} {actions : List Action} {action : Action}

theorem overtaken_concat {i : Nat} (h : i < actions.countP Action.begins) :
    Overtaken (actions ++ [action]) i ↔ Overtaken actions i ∨ action.supersedes = true := by
  simp [Overtaken, since_concat, h, or_and_right, exists_or]

theorem not_overtaken_begin (object : ManagedObject) (reference : MessageReference) :
    ¬ Overtaken (actions ++ [.begin object reference]) (actions.countP Action.begins) := by
  simp [Overtaken, since_concat]

/-- What is on the screen was fetched by the newest show; before the first show there is nothing. -/
structure ScreenOfNewest (console : Console) (actions : List Action) : Prop where
  empty : (reached console actions).shows = [] → (reached console actions).viewer.phase = .hidden ∧
    (reached console actions).viewer.model = none ∧
    (reached console actions).viewer.populated = [] ∧
    (reached console actions).viewer.pane.mounted = none
  newest : ∀ n shown, (reached console actions).shows.length = n + 1 →
    (reached console actions).shows[n]? = some shown →
      (reached console actions).viewer.Presents console shown (infoExchanges console actions n)
        (contentExchanges console actions n) (Overtaken actions n)

theorem not_supersedes_of_show {i : Nat} (mine : action.show? = some i) :
    action.supersedes = false := by
  cases action with
  | begin object reference => cases mine
  | hide => cases mine
  | _ => rfl

theorem not_supersedes_of_outOfTurn {s : SharedViewer} (out : s.OutOfTurn action) :
    action.supersedes = false := by
  cases action with
  | begin object reference => exact out.elim
  | hide => exact out.elim
  | _ => rfl

/-- A step of one show keeps the screen that of the newest, if it leaves the viewer alone once the
show is overtaken. -/
private theorem ScreenOfNewest.move {n : Nat} {old : Show} {after : SharedViewer} {stage : ShowStage}
    (h : ScreenOfNewest console actions) (mine : action.show? = some n)
    (found : (reached console actions).shows[n]? = some old)
    (hstep : (step console (reached console actions) action).1 = after.setStage n stage)
    (hshows : after.shows = (reached console actions).shows)
    (still : Overtaken actions n → after.viewer = (reached console actions).viewer)
    (moved : (reached console actions).viewer.Presents console old (infoExchanges console actions n)
        (contentExchanges console actions n) (Overtaken actions n) →
      after.viewer.Presents console ⟨old.request, stage⟩
        (infoExchanges console (actions ++ [action]) n)
        (contentExchanges console (actions ++ [action]) n) (Overtaken actions n)) :
    ScreenOfNewest console (actions ++ [action]) := by
  have hn := (List.getElem?_eq_some_iff.mp found).1
  have hovertaken {i : Nat} (hi : i < (reached console actions).shows.length) :
      Overtaken (actions ++ [action]) i = Overtaken actions i := by
    rw [length_reached] at hi
    rw [overtaken_concat hi, not_supersedes_of_show mine, Bool.false_eq_true, or_false]
  have hviewer : (after.setStage n stage).viewer = after.viewer := rfl
  constructor
  · intro hempty
    rw [reached_concat, hstep, ← List.length_eq_zero_iff, length_setStage, hshows] at hempty
    omega
  · intro m shown hlength hm
    rw [reached_concat, hstep, length_setStage, hshows] at hlength
    rw [reached_concat, hstep, getElem?_setStage, hshows] at hm
    rw [reached_concat, hstep, hviewer, hovertaken (by omega)]
    by_cases hnm : n = m
    · subst hnm
      rw [if_pos rfl, found] at hm
      obtain rfl := Option.some.inj hm
      exact moved (h.newest n old hlength found)
    · rw [if_neg hnm] at hm
      have hover : Overtaken actions n := by
        by_contra hcurrent
        have := newest_of_not_overtaken found hcurrent
        omega
      have hne : action.show? ≠ some m := by
        rw [mine]
        exact fun e => hnm (Option.some.inj e)
      obtain ⟨hinfos, hcontents, -⟩ :=
        histories_of_ne console actions hne
      rw [still hover, hinfos, hcontents]
      exact h.newest m shown hlength hm

private theorem ScreenOfNewest.begin (object : ManagedObject) (reference : MessageReference) :
    ScreenOfNewest console (actions ++ [.begin object reference]) := by
  have hafter : reached console (actions ++ [.begin object reference]) =
      { reached console actions with
        viewer := ((reached console actions).viewer.beginShow object reference).viewer
        shows := (reached console actions).shows ++
          [⟨((reached console actions).viewer.beginShow object reference).result, .begun⟩] } := by
    rw [reached_concat]
    rfl
  constructor
  · intro hempty
    simp [hafter] at hempty
  · intro m shown hlength hm
    simp only [hafter, List.length_append, List.length_singleton, Nat.add_right_cancel_iff] at hlength
    subst hlength
    simp only [hafter, List.getElem?_concat_length, Option.some.injEq] at hm
    subst hm
    simp only [hafter]
    apply Viewer.Presents.begin
    rw [length_reached]
    exact not_overtaken_begin object reference

theorem screenOfNewest (console : Console) (actions : List Action) :
    ScreenOfNewest console actions := by
  induction actions using List.reverseRecOn with
  | nil =>
    constructor
    · intro _
      exact ⟨rfl, rfl, rfl, rfl⟩
    · intro n shown hlength hn
      cases hlength
  | append_singleton actions action ih =>
    have hreached := reached_concat console actions action
    have account := accounted console actions
    have turn := turn_step console (reached console actions) action
    generalize hs : (step console (reached console actions) action).1 = after,
      he : (step console (reached console actions) action).2 = events at turn
    cases turn with
    | begin object reference => exact .begin object reference
    | requestInfo ready =>
      apply ih.move rfl ready hs rfl (fun _ => rfl)
      intro h
      apply h.fetching
      · exact nofun
      · rfl
      · rfl
      · exact nofun
    | @answerInfo n request fetch answer ready =>
      apply ih.move rfl ready hs rfl (fun _ => rfl)
      intro h
      apply h.fetching
      · exact nofun
      · cases (fetch.answer (reached console actions).session answer).next <;> rfl
      · cases (fetch.answer (reached console actions).session answer).next <;> rfl
      · exact nofun
    | @completeInfo n request answer ready =>
      have current := current_iff ready
      apply ih.move rfl ready hs rfl
      · intro hover
        rw [Viewer.completeInfo_stale (fun hc => current.mp hc hover)]
      · intro h
        rw [infoExchanges_of_none rfl, contentExchanges_of_none rfl]
        exact h.completeInfo current (account.present n _ ready).course.answered_of_infoArrived
    | @answerContent n request preview answer ready =>
      apply ih.move rfl ready hs rfl (fun _ => rfl)
      intro h
      apply h.fetching
      · exact nofun
      · rfl
      · rfl
      · intro _
        exact infoExchanges_of_none rfl
    | @completePreview n request preview answer ready =>
      have course := (account.present n _ ready).course
      have current := current_iff ready
      apply ih.move rfl ready hs rfl
      · intro hover
        rw [← course.token_of_contentArrived] at current
        rw [Viewer.completePreview_stale (fun hc => current.mp hc hover)]
      · intro h
        rw [infoExchanges_of_none rfl, contentExchanges_of_none rfl]
        exact h.completePreview course _
    | hide =>
      constructor
      · intro hempty
        rw [hreached, hs] at hempty ⊢
        obtain ⟨-, hscreen⟩ := ih.empty hempty
        exact ⟨rfl, hscreen⟩
      · intro n shown hlength hn
        rw [hreached, hs] at hlength hn ⊢
        have hbegins : n < actions.countP Action.begins := lt_begins hn
        have hne : Action.hide.show? ≠ some n := nofun
        obtain ⟨hinfos, hcontents, -⟩ := histories_of_ne console actions hne
        rw [hinfos, hcontents]
        exact (ih.newest n shown hlength hn).hide ((overtaken_concat hbegins).mpr (.inr rfl))
    | idle out =>
      constructor
      · intro hempty
        rw [hreached, hs] at hempty ⊢
        exact ih.empty hempty
      · intro n shown hlength hn
        rw [hreached, hs] at hlength hn ⊢
        obtain ⟨noInfo, noContent⟩ := exchange_of_outOfTurn out n
        rw [infoExchanges_of_none noInfo, contentExchanges_of_none noContent,
          propext (overtaken_concat (lt_begins hn)), not_supersedes_of_outOfTurn out,
          Bool.false_eq_true, or_false]
        exact ih.newest n shown hlength hn

theorem empty_or_newest (console : Console) (actions : List Action) :
    begun actions = [] ∧ (reached console actions).viewer.phase = .hidden ∧
        (reached console actions).viewer.model = none ∧
        (reached console actions).viewer.populated = [] ∧
        (reached console actions).viewer.pane.mounted = none ∨
      ∃ before shown, begun actions = before ++ [(shown.request.object, shown.request.reference)] ∧
        (reached console actions).shows.getLast? = some shown ∧
        (reached console actions).shows[before.length]? = some shown ∧
        (reached console actions).viewer.Presents console shown
          (infoExchanges console actions before.length)
          (contentExchanges console actions before.length) (Overtaken actions before.length) := by
  have screen := screenOfNewest console actions
  have hbegun := subjects_reached console actions
  cases hlast : (reached console actions).shows.getLast? with
  | none =>
    left
    have hshows := List.getLast?_eq_none_iff.mp hlast
    have hempty := screen.empty hshows
    rw [hshows] at hbegun
    exact ⟨hbegun.symm, hempty⟩
  | some shown =>
    right
    obtain ⟨before, hshows⟩ := List.getLast?_eq_some_iff.mp hlast
    have hshown : (reached console actions).shows[before.length]? = some shown := by
      rw [hshows, List.getElem?_concat_length]
    refine ⟨before.map fun s => (s.request.object, s.request.reference), shown, ?_, rfl, ?_, ?_⟩
    · rw [← hbegun, hshows]
      simp
    · rw [List.length_map, hshown]
    · rw [List.length_map]
      apply screen.newest _ _ _ hshown
      rw [hshows, List.length_append, List.length_singleton]

theorem newest_of_model {model : Present.Model}
    (hmodel : (reached console actions).viewer.model = some model) :
    ∃ before shown fetched,
      begun actions = before ++ [(shown.request.object, shown.request.reference)] ∧
      (reached console actions).shows[before.length]? = some shown ∧
      shown.request.Answered (infoExchanges console actions before.length) (.ok fetched) ∧
      model = Viewer.modelOf console shown.request fetched ∧
      (reached console actions).viewer.Presents console shown
        (infoExchanges console actions before.length)
        (contentExchanges console actions before.length) (Overtaken actions before.length) := by
  rcases empty_or_newest console actions with
    ⟨-, -, hnone, -⟩ | ⟨before, shown, hbegun, -, hshown, presents⟩
  · rw [hnone] at hmodel
    cases hmodel
  · obtain ⟨-, fetched, answered, hbuilt⟩ := presents.model model hmodel
    exact ⟨before, shown, fetched, hbegun, hshown, answered, hbuilt, presents⟩

end SharedViewer

end MessageInspector
