import MessageInspector.Proofs.Viewer.Screen
/-!
# The newest show wins

Shows and calls to hide the dialog interleave in any order, and answers come whenever they come. The
screen is that of the newest show throughout, and hiding the dialog keeps it until the next show.
-/
namespace MessageInspector
namespace SharedViewer
variable {console : Console}

theorem overtaken_of_hide {earlier later : List Action} {i : Nat}
    (begun : i < earlier.countP Action.begins) : Overtaken (earlier ++ .hide :: later) i := by
  induction later using List.reverseRecOn with
  | nil => exact (overtaken_concat begun).mpr (.inr rfl)
  | append_singleton later action ih =>
    rw [← List.cons_append, ← List.append_assoc, overtaken_concat]
    · exact .inl ih
    · rw [List.countP_append]
      omega

theorem viewer_of_overtaken {actions : List Action} {action : Action}
    (overtaken : ∀ i < actions.countP Action.begins, Overtaken actions i)
    (quiet : action.supersedes = false) :
    (reached console (actions ++ [action])).viewer = (reached console actions).viewer := by
  have turn := turn_step console (reached console actions) action
  rw [reached_concat]
  generalize (step console (reached console actions) action).1 = after,
    (step console (reached console actions) action).2 = events at turn ⊢
  cases turn with
  | begin object reference => cases quiet
  | hide => cases quiet
  | requestInfo ready => rfl
  | answerInfo answer ready => rfl
  | answerContent answer ready => rfl
  | idle out => rfl
  | completeInfo ready =>
    have hover := overtaken _ (lt_begins ready)
    have hstale := fun hc => (current_iff ready).mp hc hover
    rw [Viewer.completeInfo_stale hstale]
    rfl
  | @completePreview n request preview answer ready =>
    have hover := overtaken _ (lt_begins ready)
    have hstale := fun hc => (current_iff ready).mp hc hover
    rw [← ((accounted console actions).present n _ ready).course.token_of_contentArrived] at hstale
    rw [Viewer.completePreview_stale hstale]
    rfl

/-- While the dialog stays hidden, no answer changes what is on the screen. -/
theorem hidden_until_next_show (earlier later : List Action)
    (quiet : ∀ action ∈ later, action.begins = false) :
    (reached console (earlier ++ .hide :: later)).viewer.phase = .hidden ∧
      (reached console (earlier ++ .hide :: later)).viewer.model =
        (reached console earlier).viewer.model ∧
      (reached console (earlier ++ .hide :: later)).viewer.populated =
        (reached console earlier).viewer.populated ∧
      (reached console (earlier ++ .hide :: later)).viewer.pane =
        (reached console earlier).viewer.pane := by
  induction later using List.reverseRecOn with
  | nil =>
    rw [reached_concat]
    exact ⟨rfl, rfl, rfl, rfl⟩
  | append_singleton later action ih =>
    have hlater : ∀ action ∈ later, action.begins = false :=
      fun action h => quiet action (List.mem_append_left _ h)
    have hquiet := quiet action (List.mem_append_right _ (List.mem_singleton_self _))
    have hcount : (earlier ++ .hide :: later).countP Action.begins =
        earlier.countP Action.begins := by
      have hnone : later.countP Action.begins = 0 := by
        rw [List.countP_eq_zero]
        intro action h
        simp [hlater action h]
      rw [List.countP_append, List.countP_cons, hnone]
      rfl
    rw [← List.cons_append, ← List.append_assoc]
    by_cases hs : action.supersedes = true
    · cases action with
      | begin object reference => cases hquiet
      | hide =>
        rw [reached_concat]
        exact ⟨rfl, (ih hlater).2⟩
      | _ => cases hs
    · rw [viewer_of_overtaken]
      · exact ih hlater
      · intro i hi
        rw [hcount] at hi
        exact overtaken_of_hide hi
      · exact eq_false_of_ne_true hs

/-- What a run of interleaved shows and hides has on the screen. -/
structure NewestShowWins (console : Console) (actions : List Action) : Prop where
  /-- The model is built of the info that the newest show has fetched, in the scope of the call that
  returned it. -/
  model : ∀ model, (reached console actions).viewer.model = some model →
    ∃ earlier object reference scope info,
      begun actions = earlier ++ [(object, reference)] ∧
      (infoExchanges console actions earlier.length).getLast? =
        some ⟨⟨object, reference.id, scope⟩, .ok info⟩ ∧
      model = console.presenter.build info scope.includesHeaders
        (fun id => console.downloadUrl object (.full id))
  /-- The slots are those of the model, and there are none without a model. -/
  populated : (reached console actions).viewer.populated =
    ((reached console actions).viewer.model.map (·.fields.map (·.slot))).getD []
  /-- The preview is built of the content that the same show has fetched for the info on the screen. -/
  preview : ∀ mounted, (reached console actions).viewer.pane.mounted = some mounted →
    ∃ earlier object reference info mimeType payload body,
      begun actions = earlier ++ [(object, reference)] ∧
      (infoExchanges console actions earlier.length).getLast? =
        some ⟨⟨object, reference.id, .headersIncluded⟩, .ok info⟩ ∧
      (reached console actions).viewer.model =
        some (console.presenter.build info true (fun id => console.downloadUrl object (.full id))) ∧
      info.mimeType = some mimeType ∧
      contentExchanges console actions earlier.length =
        [⟨⟨object, info.id, mimeType, console.presenter.previewLimit⟩, .ok payload⟩] ∧
      Content.decodeOrText mimeType (payload.bytes.take console.presenter.previewLimit) = .ok body ∧
      mounted.preview =
        console.presenter.preview body console.presenter.previewLimit info.sizeBytes
  /-- While loading there is nothing on the screen, and the newest show has its info still ahead. -/
  loading : (reached console actions).viewer.phase = .loading →
    (reached console actions).viewer.model = none ∧
      (reached console actions).viewer.populated = [] ∧
      (reached console actions).viewer.pane.mounted = none ∧
      ∃ shown, (reached console actions).shows.getLast? = some shown ∧ shown.stage.applied = false
  /-- Once all shows have returned, nothing is loading. -/
  settled : (∀ shown ∈ (reached console actions).shows, ∃ outcome, shown.stage = .finished outcome) →
    (reached console actions).viewer.phase = .hidden ∨
      (reached console actions).viewer.phase = .shown
  shown : (reached console actions).viewer.phase = .shown →
    ∃ model, (reached console actions).viewer.model = some model
  /-- The info of the newest show is shown once it has arrived, unless the show is overtaken first. -/
  wins : ∀ earlier object reference scope info stage,
    begun actions = earlier ++ [(object, reference)] → ¬ Overtaken actions earlier.length →
      (infoExchanges console actions earlier.length).getLast? =
        some ⟨⟨object, reference.id, scope⟩, .ok info⟩ →
      (reached console actions).stage? earlier.length = some stage → stage.applied = true →
        (reached console actions).viewer.phase = .shown
  /-- If the newest show could not fetch its info, the dialog is hidden and nothing is left on it. -/
  failed : ∀ earlier object reference scope e stage,
    begun actions = earlier ++ [(object, reference)] → ¬ Overtaken actions earlier.length →
      (infoExchanges console actions earlier.length).getLast? =
        some ⟨⟨object, reference.id, scope⟩, .error e⟩ →
      (reached console actions).stage? earlier.length = some stage → stage.applied = true →
        (reached console actions).viewer.phase = .hidden ∧
          (reached console actions).viewer.model = none ∧
          (reached console actions).viewer.pane.mounted = none
  /-- A hidden dialog stays hidden and keeps what it had, whatever arrives before the next show. -/
  hidden : ∀ earlier later, actions = earlier ++ .hide :: later →
    (∀ action ∈ later, action.begins = false) →
      (reached console actions).viewer.phase = .hidden ∧
        (reached console actions).viewer.model = (reached console earlier).viewer.model ∧
        (reached console actions).viewer.populated = (reached console earlier).viewer.populated ∧
        (reached console actions).viewer.pane = (reached console earlier).viewer.pane
  /-- There are no more tokens than operations. -/
  tokens : (reached console actions).viewer.latest ≤ actions.length

private theorem model_of_mounted {v : Viewer} {shown : Show} {infos : List InfoExchange}
    {contents : List ContentExchange} {overtaken : Prop}
    (h : v.Presents console shown infos contents overtaken) (hmounted : v.pane.mounted ≠ none)
    {info : MessageInfo} {scope : FetchScope}
    (hlast : infos.getLast? = some ⟨shown.request.fetch scope, .ok info⟩) :
    v.model = some (Viewer.modelOf console shown.request ⟨info, scope⟩) := by
  obtain ⟨model, hmodel⟩ := Option.ne_none_iff_exists'.mp (h.underModel (.inr hmounted))
  obtain ⟨-, fetched, answered, rfl⟩ := h.model model hmodel
  obtain rfl := Except.ok.inj ((answered.eq_ok_iff info scope).mpr hlast)
  exact hmodel

theorem preview_newest {v : Viewer} {shown : Show} {infos : List InfoExchange}
    {contents : List ContentExchange} {overtaken : Prop} {mounted : Preview.Mounted}
    (h : v.Presents console shown infos contents overtaken)
    (hmounted : v.pane.mounted = some mounted) :
    ∃ info mimeType payload body,
      infos.getLast? =
        some ⟨⟨shown.request.object, shown.request.reference.id, .headersIncluded⟩, .ok info⟩ ∧
      v.model = some (console.presenter.build info true
        (fun id => console.downloadUrl shown.request.object (.full id))) ∧
      info.mimeType = some mimeType ∧
      contents =
        [⟨⟨shown.request.object, info.id, mimeType, console.presenter.previewLimit⟩, .ok payload⟩] ∧
      Content.decodeOrText mimeType (payload.bytes.take console.presenter.previewLimit) = .ok body ∧
      mounted.preview =
        console.presenter.preview body console.presenter.previewLimit info.sizeBytes := by
  obtain ⟨plan, payload, body, outcome, -, planned, hcontents, hdecoded, hcontent⟩ :=
    h.mounted mounted hmounted
  obtain ⟨info, hlast, -, hmime, hplan⟩ := planned.info
  have hsome : v.pane.mounted ≠ none := by
    rw [hmounted]
    exact Option.some_ne_none _
  refine ⟨info, plan.mimeType, payload, body, hlast, model_of_mounted h hsome hlast, hmime, ?_, ?_,
    ?_⟩
  · rw [hcontents, hplan]
    rfl
  · rw [hplan] at hdecoded
    exact hdecoded
  · rw [hcontent, hplan]

private theorem applied_newest {actions : List Action}
    {before : List (ManagedObject × MessageReference)} {object : ManagedObject}
    {reference : MessageReference} {stage : ShowStage}
    (hbegun : begun actions = before ++ [(object, reference)])
    (hstage : (reached console actions).stage? before.length = some stage)
    (happlied : stage.applied = true) :
    ∃ shown answer, shown.request.object = object ∧ shown.request.reference = reference ∧
      shown.stage.applied = true ∧
      shown.request.Answered (infoExchanges console actions before.length) answer ∧
      (reached console actions).viewer.Presents console shown
        (infoExchanges console actions before.length)
        (contentExchanges console actions before.length) (Overtaken actions before.length) := by
  rcases empty_or_newest console actions with ⟨hnone, -⟩ | ⟨all, shown, hall, -, hshown, presents⟩
  · rw [hnone] at hbegun
    simp at hbegun
  · obtain ⟨rfl, hlast⟩ := List.append_inj' (hall.symm.trans hbegun) rfl
    rw [stage?, hshown] at hstage
    obtain rfl := Option.some.inj hstage
    have course := ((accounted console actions).present _ _ hshown).course
    obtain ⟨answer, answered⟩ := course.answered_of_applied happlied
    simp only [List.cons.injEq, Prod.mk.injEq, and_true] at hlast
    exact ⟨shown, answer, hlast.1, hlast.2, happlied, answered, presents⟩

/-- Every run, however its steps interleave, leaves the screen to the newest show. -/
theorem run_newestShowWins (console : Console) (actions : List Action) :
    NewestShowWins console actions where
  model := by
    intro model hm
    obtain ⟨before, shown, fetched, hbegun, -, answered, rfl, -⟩ := newest_of_model hm
    exact ⟨before, _, _, fetched.scope, fetched.info, hbegun, answered.getLast_ok, rfl⟩
  populated := by
    rcases empty_or_newest console actions with
      ⟨-, -, hmodel, hpopulated, -⟩ | ⟨before, shown, -, -, -, presents⟩
    · rw [hmodel, hpopulated]
      rfl
    · exact presents.populated
  preview := by
    intro mounted hm
    rcases empty_or_newest console actions with
      ⟨-, -, -, -, hmounted⟩ | ⟨before, shown, hbegun, -, -, presents⟩
    · rw [hmounted] at hm
      cases hm
    · obtain ⟨info, mimeType, payload, body, h⟩ := preview_newest presents hm
      exact ⟨before, _, _, info, mimeType, payload, body, hbegun, h⟩
  loading := by
    intro hloading
    rcases empty_or_newest console actions with ⟨-, hphase, -⟩ | ⟨before, shown, -, hlast, -, presents⟩
    · rw [hphase] at hloading
      cases hloading
    · have happlied := (presents.loading.mp hloading).2
      obtain ⟨hmodel, hpopulated, hmounted⟩ := presents.blank happlied
      exact ⟨hmodel, hpopulated, hmounted, shown, hlast, happlied⟩
  settled := by
    intro hfinished
    rcases empty_or_newest console actions with ⟨-, hphase, -⟩ | ⟨before, shown, -, hlast, -, presents⟩
    · exact .inl hphase
    · obtain ⟨outcome, hstage⟩ := hfinished shown (List.mem_of_getLast? hlast)
      cases hphase : (reached console actions).viewer.phase with
      | hidden => exact .inl rfl
      | shown => exact .inr rfl
      | loading =>
        have happlied := (presents.loading.mp hphase).2
        rw [hstage] at happlied
        cases happlied
  shown := by
    intro hshown
    rcases empty_or_newest console actions with ⟨-, hphase, -⟩ | ⟨before, shown, -, -, -, presents⟩
    · rw [hphase] at hshown
      cases hshown
    · exact Option.isSome_iff_exists.mp (presents.shown.mp hshown).2
  wins := by
    intro earlier object reference scope info stage hbegun hover hinfo hstage happlied
    obtain ⟨shown, answer, rfl, rfl, hshown, answered, presents⟩ :=
      applied_newest hbegun hstage happlied
    obtain rfl := (answered.eq_ok_iff info scope).mpr hinfo
    exact presents.shown.mpr ⟨hover, presents.applied hover hshown _ answered⟩
  failed := by
    intro earlier object reference scope e stage hbegun hover hinfo hstage happlied
    obtain ⟨shown, answer, rfl, rfl, hshown, answered, presents⟩ :=
      applied_newest hbegun hstage happlied
    have hmodel : (reached console actions).viewer.model = none := by
      rw [Option.eq_none_iff_forall_ne_some]
      intro model hm
      obtain ⟨-, fetched, fetchedOk, -⟩ := presents.model model hm
      have hlast := fetchedOk.getLast_ok
      rw [hinfo] at hlast
      cases hlast
    refine ⟨?_, hmodel, ?_⟩
    · cases hphase : (reached console actions).viewer.phase with
      | hidden => rfl
      | loading =>
        have hahead := (presents.loading.mp hphase).2
        rw [hshown] at hahead
        cases hahead
      | shown =>
        have hsome := (presents.shown.mp hphase).2
        rw [hmodel] at hsome
        cases hsome
    · by_contra hmounted
      exact presents.underModel (.inr hmounted) hmodel
  hidden := by
    rintro earlier later rfl quiet
    exact hidden_until_next_show earlier later quiet
  tokens := by
    rw [latest_reached]
    exact List.countP_le_length

end SharedViewer
end MessageInspector
