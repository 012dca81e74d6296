import MessageInspector.Proofs.Viewer.StaleAnswers
/-!
# The cycle of phases

A dialog is hidden, waits for a show that begins, shows it and is hidden again. A show that fails
hides the dialog too, but its token stays the one drawn last, so that a further answer to one of its
requests still counts: it may put fields or a preview on a dialog that is hidden. Nothing else breaks
the cycle, and nothing does as long as no show request is answered twice.
-/
namespace MessageInspector

structure Viewer.SameScreen (v w : Viewer) : Prop where
  phase : w.phase = v.phase
  model : w.model = v.model
  populated : w.populated = v.populated
  pane : w.pane = v.pane

theorem Viewer.SameScreen.refl (v : Viewer) : v.SameScreen v := ⟨rfl, rfl, rfl, rfl⟩

theorem Viewer.SameScreen.eq_of_latest {v w : Viewer} (h : v.SameScreen w)
    (latest : w.latest = v.latest) : w = v := by
  obtain ⟨hphase, hmodel, hpopulated, hpane⟩ := h
  cases v
  cases w
  simp_all

namespace Dialog
variable {console : Console} {actions : List Action} {d : Dialog} {action : Action} {token : Nat}

def Action.begins : Action → Bool
  | .begin _ _ => true
  | .completeInfo _ _ => false
  | .completePreview _ _ => false
  | .hide => false

theorem not_begins_of_not_supersedes (h : action.supersedes = false) : action.begins = false := by
  cases action <;> trivial

theorem not_supersedes_of_token (h : d.token? action = some token) : action.supersedes = false := by
  cases action with
  | begin object reference => cases h
  | completeInfo i answer => rfl
  | completePreview i answer => rfl
  | hide => cases h

/-- The causes for which a step enters the phases other than the shown one. -/
structure EntersInTurn (before : Phase) (action : Action) (after : Phase) (reply : Reply) : Prop where
  loading : after = .loading → before = .loading ∨ action.begins = true
  hidden : after = .hidden → before = .hidden ∨ action = .hide ∨
    ∃ failure, reply = .info (.failed failure)

theorem entersInTurn_step (console : Console) (d : Dialog) (action : Action) :
    EntersInTurn d.viewer.phase action (step console d action).1.viewer.phase
      (step console d action).2.1 := by
  have turn := turn_step console d action
  generalize (step console d action).1 = after, (step console d action).2.1 = reply,
    (step console d action).2.2 = reports at turn ⊢
  cases turn with
  | begin object reference => exact ⟨fun _ => .inr rfl, nofun⟩
  | @completeInfo i request answer found =>
    by_cases current : d.viewer.isCurrent request.token = true
    · cases answer with
      | error e =>
        rw [Viewer.completeInfo_error current]
        exact ⟨nofun, fun _ => .inr (.inr ⟨_, rfl⟩)⟩
      | ok fetched =>
        rw [Viewer.completeInfo_ok current]
        exact ⟨nofun, nofun⟩
    · rw [Viewer.completeInfo_stale current]
      exact ⟨.inl, .inl⟩
  | @completePreview i request answer found =>
    obtain ⟨pane, hpane⟩ := Viewer.completePreview_pane console d.viewer request answer
    rw [hpane]
    exact ⟨.inl, .inl⟩
  | hide => exact ⟨nofun, fun _ => .inr (.inl rfl)⟩
  | noShow answer absent => exact ⟨.inl, .inl⟩
  | noPreview answer absent => exact ⟨.inl, .inl⟩

theorem step_of_failed {failure : LoadError}
    (failed : (step console d action).2.1 = .info (.failed failure)) :
    d.token? action = some d.viewer.latest ∧ (step console d action).1.viewer.phase = .hidden := by
  have turn := turn_step console d action
  generalize (step console d action).1 = after, (step console d action).2.1 = reply,
    (step console d action).2.2 = reports at turn failed ⊢
  cases turn with
  | begin object reference => cases failed
  | @completeInfo i request answer found =>
    rw [Reply.info.injEq] at failed
    by_cases current : d.viewer.isCurrent request.token = true
    · cases answer with
      | error e =>
        rw [Viewer.completeInfo_error current]
        simpa [token?, found, Viewer.isCurrent] using current
      | ok fetched =>
        rw [Viewer.completeInfo_ok current] at failed
        cases failed
    · rw [Viewer.completeInfo_stale current] at failed
      cases failed
  | completePreview answer found => cases failed
  | hide => cases failed
  | noShow answer absent => cases failed
  | noPreview answer absent => cases failed

theorem step_of_hidden (console : Console) (hidden : d.viewer.phase = .hidden)
    (quiet : action.begins = false) :
    d.viewer.SameScreen (step console d action).1.viewer ∨
      d.token? action = some d.viewer.latest := by
  by_cases stale : (step console d action).2.1.isStale = true
  · rw [step_of_stale stale]
    exact .inl (.refl _)
  · rw [isStale_step_iff] at stale
    cases htoken : d.token? action with
    | some token =>
      have hlatest : token = d.viewer.latest := by
        by_contra hne
        exact stale ⟨token, htoken, hne⟩
      exact .inr (congrArg some hlatest)
    | none =>
      left
      cases action with
      | begin object reference => cases quiet
      | completeInfo i answer =>
        rw [token?, Option.map_eq_none_iff] at htoken
        simp only [step, htoken]
        exact .refl _
      | completePreview i answer =>
        rw [token?, Option.map_eq_none_iff] at htoken
        simp only [step, htoken]
        exact .refl _
      | hide => exact ⟨hidden.symm, rfl, rfl, rfl⟩

/-- The show with this token has failed, and nothing has superseded it since. -/
def Failed (console : Console) (actions : List Action) (token : Nat) : Prop :=
  ∃ before action since failure, actions = before ++ action :: since ∧
    (reached console before).token? action = some token ∧
    (step console (reached console before) action).2.1 = .info (.failed failure) ∧
    ∀ a ∈ since, a.supersedes = false

theorem Failed.concat (h : Failed console actions token) (quiet : action.supersedes = false) :
    Failed console (actions ++ [action]) token := by
  obtain ⟨before, answer, since, failure, rfl, htoken, hfailed, hsince⟩ := h
  refine ⟨before, answer, since ++ [action], failure, by simp, htoken, hfailed, ?_⟩
  intro a ha
  rcases List.mem_append.mp ha with hearlier | hlast
  · exact hsince a hearlier
  · obtain rfl := List.mem_singleton.mp hlast
    exact quiet

/-- If the dialog is hidden though nothing has superseded the show, the show has failed. -/
theorem failed_of_hidden {since : List Action} (drew : Drew console actions token since)
    (newest : token = (reached console actions).viewer.latest)
    (hidden : (reached console actions).viewer.phase = .hidden) : Failed console actions token := by
  obtain ⟨before, object, reference, rfl, htoken⟩ := drew
  induction since using List.reverseRecOn with
  | nil =>
    rw [reached_concat] at hidden
    cases hidden
  | append_singleton since action ih =>
    have hconcat : before ++ .begin object reference :: (since ++ [action]) =
        (before ++ .begin object reference :: since) ++ [action] := by simp
    have drew : Drew console (before ++ .begin object reference :: since) token since :=
      ⟨before, object, reference, rfl, htoken⟩
    have hlatest := latest_step console (reached console (before ++ .begin object reference :: since))
      action
    rw [hconcat] at newest hidden ⊢
    rw [reached_concat] at newest hidden
    have quiet : action.supersedes = false := by
      by_contra supersedes
      rw [Bool.not_eq_false] at supersedes
      have := drew.latest
      rw [supersedes, if_pos rfl] at hlatest
      omega
    rw [quiet, if_neg Bool.false_ne_true, Nat.add_zero] at hlatest
    rw [hlatest] at newest
    rcases (entersInTurn_step console _ action).hidden hidden with hbefore | rfl | ⟨failure, hfailed⟩
    · exact (ih newest hbefore).concat quiet
    · cases quiet
    · obtain ⟨hanswers, -⟩ := step_of_failed hfailed
      rw [← newest] at hanswers
      exact ⟨_, action, [], failure, rfl, hanswers, hfailed, nofun⟩

/-- A step keeps to the cycle: the dialog waits once a show begins, shows what it has waited for, and
keeps its screen while it is hidden. -/
structure KeepsCycle (console : Console) (d : Dialog) (action : Action) : Prop extends
    EntersInTurn d.viewer.phase action (step console d action).1.viewer.phase
      (step console d action).2.1 where
  shown : (step console d action).1.viewer.phase = .shown →
    d.viewer.phase = .loading ∨ d.viewer.phase = .shown
  atRest : d.viewer.phase = .hidden → action.begins = false →
    d.viewer.SameScreen (step console d action).1.viewer

theorem KeepsCycle.of_atRest (atRest : d.viewer.phase = .hidden → action.begins = false →
    d.viewer.SameScreen (step console d action).1.viewer) : KeepsCycle console d action := by
  refine ⟨entersInTurn_step console d action, ?_, atRest⟩
  intro hshown
  cases hphase : d.viewer.phase with
  | hidden =>
    exfalso
    cases action with
    | begin object reference => cases hshown
    | completeInfo i answer | completePreview i answer | hide =>
      have hsame := (atRest hphase rfl).phase
      rw [hshown, hphase] at hsame
      cases hsame
  | loading => exact .inl rfl
  | shown => exact .inr rfl

def FollowsCycle (console : Console) (actions : List Action) : Prop :=
  ∀ earlier action, earlier ++ [action] <+: actions →
    KeepsCycle console (reached console earlier) action

theorem hidden_of_failed (follows : FollowsCycle console actions)
    (failed : Failed console actions token) : (reached console actions).viewer.phase = .hidden := by
  obtain ⟨before, answer, since, failure, rfl, -, hfailed, hsince⟩ := failed
  induction since using List.reverseRecOn with
  | nil =>
    rw [reached_concat]
    exact (step_of_failed hfailed).2
  | append_singleton since action ih =>
    have hconcat : before ++ answer :: (since ++ [action]) =
        (before ++ answer :: since) ++ [action] := by simp
    rw [hconcat] at follows ⊢
    have hhidden := ih (fun earlier a hearly => follows earlier a
        (hearly.trans (List.prefix_append _ _)))
      (fun a ha => hsince a (List.mem_append_left _ ha))
    have quiet := hsince action (List.mem_append_right _ (List.mem_singleton_self _))
    have keeps := follows _ action List.prefix_rfl
    rw [reached_concat, (keeps.atRest hhidden (not_begins_of_not_supersedes quiet)).phase]
    exact hhidden

/-- The dialog waits for the newest show until its request is answered, and whenever it could be given
content for that show, the show is on the screen. -/
structure Orderly (console : Console) (actions : List Action) : Prop where
  unanswered : ∀ i request, (reached console actions).shows[i]? = some request →
    request.token = (reached console actions).viewer.latest → i ∉ answeredShows console actions →
      (reached console actions).viewer.phase = .loading
  planned : ∀ request ∈ (reached console actions).previews,
    request.token = (reached console actions).viewer.latest →
      (reached console actions).viewer.phase = .shown

namespace Orderly

theorem of_still (h : Orderly console actions)
    (shows : (reached console (actions ++ [action])).shows = (reached console actions).shows)
    (previews : (reached console (actions ++ [action])).previews = (reached console actions).previews)
    (latest : (reached console (actions ++ [action])).viewer.latest =
      (reached console actions).viewer.latest)
    (phase : (reached console (actions ++ [action])).viewer.phase =
      (reached console actions).viewer.phase) :
    Orderly console (actions ++ [action]) := by
  constructor
  · rw [shows, latest, phase, answeredShows_concat]
    intro i request found newest hi
    rw [List.mem_append, not_or] at hi
    exact h.unanswered i request found newest hi.1
  · rw [previews, latest, phase]
    exact h.planned

theorem of_superseded (supersedes : action.supersedes = true)
    (shows : ∀ request ∈ (reached console (actions ++ [action])).shows,
      request ∉ (reached console actions).shows →
        (reached console (actions ++ [action])).viewer.phase = .loading)
    (previews : (reached console (actions ++ [action])).previews = (reached console actions).previews) :
    Orderly console (actions ++ [action]) := by
  have hlatest : (reached console (actions ++ [action])).viewer.latest =
      (reached console actions).viewer.latest + 1 := by
    rw [reached_concat, latest_step, supersedes, if_pos rfl]
  constructor
  · intro i request found newest hi
    apply shows request (List.mem_of_getElem? found)
    intro hearlier
    obtain ⟨since, hdrew⟩ := drew_of_show hearlier
    have := hdrew.latest
    omega
  · rw [previews]
    intro request hearlier newest
    obtain ⟨since, hdrew⟩ := drew_of_preview hearlier
    have := hdrew.latest
    omega

theorem completeInfo (h : Orderly console actions) {i : Nat} {request : ShowRequest}
    (found : (reached console actions).shows[i]? = some request)
    (fresh : i ∉ answeredShows console actions) (answer : Except ApiError FetchedInfo) :
    Orderly console (actions ++ [.completeInfo i answer]) := by
  have hreached : reached console (actions ++ [.completeInfo i answer]) =
      { reached console actions with
        viewer := ((reached console actions).viewer.completeInfo console request answer).viewer
        previews := (reached console actions).previews ++
          handedOut ((reached console actions).viewer.completeInfo console request answer).result } := by
    rw [reached_concat]
    simp only [step, found]
  have hanswered : i ∈ answeredShows console (actions ++ [.completeInfo i answer]) := by
    have hi := (List.getElem?_eq_some_iff.mp found).1
    simp [answeredShows_concat, answersShow?, hi]
  by_cases current : (reached console actions).viewer.isCurrent request.token = true
  · have newest : request.token = (reached console actions).viewer.latest := beq_iff_eq.mp current
    constructor
    · rw [hreached, Viewer.latest_completeInfo]
      intro j other hother hlatest hj
      obtain rfl := (tokensInOrder_reached console actions).index_unique hother found
        (hlatest.trans newest.symm)
      exact absurd hanswered hj
    · have waiting := h.unanswered i request found newest fresh
      have unplanned (preview : PreviewRequest)
          (hpreview : preview ∈ (reached console actions).previews)
          (hlatest : preview.token = (reached console actions).viewer.latest) : False := by
        have hshown := h.planned preview hpreview hlatest
        rw [waiting] at hshown
        cases hshown
      rw [hreached, Viewer.latest_completeInfo]
      intro preview hpreview hlatest
      cases answer with
      | error e =>
        rw [Viewer.completeInfo_error current, handedOut, List.append_nil] at hpreview
        exact (unplanned preview hpreview hlatest).elim
      | ok fetched =>
        rw [Viewer.completeInfo_ok current]
  · rw [Viewer.completeInfo_stale current, handedOut, List.append_nil] at hreached
    exact h.of_still (by rw [hreached]) (by rw [hreached]) (by rw [hreached]) (by rw [hreached])

end Orderly

theorem orderly_of_answeredOnce (once : AnsweredOnce console actions) : Orderly console actions := by
  induction actions using List.reverseRecOn with
  | nil => exact ⟨nofun, nofun⟩
  | append_singleton actions action ih =>
    have h := ih once.of_append
    have turn := turn_step console (reached console actions) action
    have hreached := reached_concat console actions action
    generalize (step console (reached console actions) action).1 = after,
      (step console (reached console actions) action).2.1 = reply,
      (step console (reached console actions) action).2.2 = reports at turn hreached
    cases turn with
    | begin object reference =>
      refine .of_superseded rfl ?_ (by rw [hreached])
      intro _ _ _
      rw [hreached]
      rfl
    | completeInfo answer found => exact h.completeInfo found (once.fresh found) answer
    | @completePreview i request answer found =>
      obtain ⟨pane, hpane⟩ := Viewer.completePreview_pane console (reached console actions).viewer
        request answer
      rw [hpane] at hreached
      exact h.of_still (by rw [hreached]) (by rw [hreached]) (by rw [hreached]) (by rw [hreached])
    | hide =>
      refine .of_superseded rfl ?_ (by rw [hreached])
      intro request hrequest hnew
      rw [hreached] at hrequest
      exact absurd hrequest hnew
    | noShow answer absent | noPreview answer absent =>
      exact h.of_still (by rw [hreached]) (by rw [hreached]) (by rw [hreached]) (by rw [hreached])

theorem followsCycle_of_answeredOnce (once : AnsweredOnce console actions) :
    FollowsCycle console actions := by
  rintro earlier action ⟨later, rfl⟩
  have once := once.of_append
  have orderly := orderly_of_answeredOnce once.of_append
  apply KeepsCycle.of_atRest
  intro hidden quiet
  rcases step_of_hidden console hidden quiet with same | newest
  · exact same
  · exfalso
    cases action with
    | begin object reference => cases newest
    | completeInfo i answer =>
      obtain ⟨request, found, htoken⟩ := Option.map_eq_some_iff.mp newest
      rw [orderly.unanswered i request found htoken (once.fresh found)] at hidden
      cases hidden
    | completePreview i answer =>
      obtain ⟨request, found, htoken⟩ := Option.map_eq_some_iff.mp newest
      rw [orderly.planned request (List.mem_of_getElem? found) htoken] at hidden
      cases hidden
    | hide => cases newest

/-- What a hidden dialog has on the screen, only a show that begins changes, or an answer to a show that
has failed. So a run keeps to the cycle exactly if such answers leave the viewer as it is, and it does
so where no show request is answered twice. -/
theorem run_followsCycle_iff (console : Console) (actions : List Action) :
    (∀ earlier action, earlier ++ [action] <+: actions →
      EntersInTurn (reached console earlier).viewer.phase action
          (reached console (earlier ++ [action])).viewer.phase
          (step console (reached console earlier) action).2.1 ∧
        ((reached console earlier).viewer.phase = .hidden → action.begins = false →
          (reached console earlier).viewer.SameScreen (reached console (earlier ++ [action])).viewer ∨
            ∃ token, (reached console earlier).token? action = some token ∧
              Failed console earlier token)) ∧
    (FollowsCycle console actions ↔
      ∀ earlier action token, earlier ++ [action] <+: actions →
        (reached console earlier).token? action = some token → Failed console earlier token →
          (reached console (earlier ++ [action])).viewer = (reached console earlier).viewer) ∧
    (AnsweredOnce console actions → FollowsCycle console actions) := by
  have of_hidden (earlier : List Action) (action : Action)
      (hidden : (reached console earlier).viewer.phase = .hidden) (quiet : action.begins = false) :
      (reached console earlier).viewer.SameScreen (reached console (earlier ++ [action])).viewer ∨
        ∃ token, (reached console earlier).token? action = some token ∧
          Failed console earlier token := by
    rw [reached_concat]
    refine (step_of_hidden console hidden quiet).imp_right ?_
    intro newest
    obtain ⟨since, hdrew⟩ := drew_of_token newest
    exact ⟨_, newest, failed_of_hidden hdrew rfl hidden⟩
  refine ⟨?_, ⟨?_, ?_⟩, followsCycle_of_answeredOnce⟩
  · intro earlier action _
    refine ⟨?_, of_hidden earlier action⟩
    rw [reached_concat]
    exact entersInTurn_step console _ action
  · intro follows earlier action token hearly htoken failed
    have quiet := not_supersedes_of_token htoken
    have hidden := hidden_of_failed
      (fun early a h => follows early a (h.trans ((List.prefix_append _ _).trans hearly))) failed
    have same := (follows earlier action hearly).atRest hidden (not_begins_of_not_supersedes quiet)
    rw [reached_concat]
    apply same.eq_of_latest
    rw [latest_step, quiet, if_neg Bool.false_ne_true, Nat.add_zero]
  · intro leaves earlier action hearly
    apply KeepsCycle.of_atRest
    intro hidden quiet
    rw [← reached_concat]
    rcases of_hidden earlier action hidden quiet with same | ⟨token, htoken, failed⟩
    · exact same
    · rw [leaves earlier action token hearly htoken failed]
      exact .refl _

/-- A show fails and hides the dialog. Its request is answered once more, now with message info, and
the dialog is shown though no show has begun. -/
theorem not_followsCycle_of_second_answer :
    let console : Console := ⟨Present.Presenter.standard, fun _ _ => ""⟩
    let attributes := [("id", .number (.int 1)), ("mimeType", .string "image/png")]
    let info : MessageInfo := ⟨⟨⟨"1"⟩, 0, some "image/png"⟩, .ofList attributes⟩
    let failing : List Action :=
      [.begin (ManagedObject.queue "node" "host" "q") ⟨⟨"1"⟩, 0, none⟩,
        .completeInfo 0 (.error (.transport "connection reset"))]
    let again : Action := .completeInfo 0 (.ok ⟨info, .headersIncluded⟩)
    MessageInfo.ofValue (.object attributes) = .ok info ∧
      (reached console failing).viewer.phase = .hidden ∧
      (reached console (failing ++ [again])).viewer.phase = .shown ∧
      ¬ FollowsCycle console (failing ++ [again]) := by
  intro console attributes info failing again
  have hidden : (reached console failing).viewer.phase = .hidden := by decide +kernel
  have shown : (reached console (failing ++ [again])).viewer.phase = .shown := by decide +kernel
  refine ⟨rfl, hidden, shown, ?_⟩
  intro follows
  rw [reached_concat] at shown
  have entered := (follows failing again List.prefix_rfl).shown shown
  rw [hidden] at entered
  exact entered.elim nofun nofun

end Dialog
end MessageInspector
