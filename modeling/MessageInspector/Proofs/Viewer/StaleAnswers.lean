import MessageInspector.Proofs.Viewer.DialogHistory
/-!
# Stale answers

A dialog may get an answer to a request of any age. The answer counts exactly as long as nothing has
superseded the show that its request belongs to, and one that does not count leaves no trace: a run
without it ends in the same dialog and has the same reply to every other action.
-/
namespace MessageInspector.Dialog
variable {console : Console} {actions : List Action} {d : Dialog} {action : Action}

/-- The action draws a token and so supersedes the show under way. -/
def Action.supersedes : Action → Bool
  | .begin _ _ => true
  | .completeInfo _ _ => false
  | .completePreview _ _ => false
  | .hide => true

def token? (d : Dialog) : Action → Option Nat
  | .begin _ _ => none
  | .completeInfo i _ => d.shows[i]?.map (·.token)
  | .completePreview i _ => d.previews[i]?.map (·.token)
  | .hide => none

def Reply.isStale : Reply → Bool
  | .info .stale => true
  | .preview .stale => true
  | _ => false

theorem isStale_info (transition : InfoTransition) :
    (Reply.info transition).isStale = true ↔ transition = .stale := by
  cases transition <;> simp [Reply.isStale]

theorem isStale_preview (transition : PreviewTransition) :
    (Reply.preview transition).isStale = true ↔ transition = .stale := by
  cases transition <;> simp [Reply.isStale]

theorem isStale_step_iff (console : Console) (d : Dialog) (action : Action) :
    (step console d action).2.1.isStale = true ↔
      ∃ token, d.token? action = some token ∧ token ≠ d.viewer.latest := by
  have turn := turn_step console d action
  generalize (step console d action).1 = after, (step console d action).2.1 = reply,
    (step console d action).2.2 = reports at turn ⊢
  cases turn with
  | begin object reference => simp [Reply.isStale, token?]
  | completeInfo answer found =>
    rw [isStale_info, Viewer.completeInfo_eq_stale_iff]
    simp [token?, found, Viewer.isCurrent]
  | completePreview answer found =>
    rw [isStale_preview, Viewer.completePreview_eq_stale_iff]
    simp [token?, found, Viewer.isCurrent]
  | hide => simp [Reply.isStale, token?]
  | noShow answer absent => simp [Reply.isStale, token?, absent]
  | noPreview answer absent => simp [Reply.isStale, token?, absent]

theorem step_of_stale (stale : (step console d action).2.1.isStale = true) :
    (step console d action).1 = d := by
  have turn := turn_step console d action
  generalize (step console d action).1 = after, (step console d action).2.1 = reply,
    (step console d action).2.2 = reports at turn stale ⊢
  cases turn with
  | begin object reference => cases stale
  | completeInfo answer found =>
    rw [isStale_info, Viewer.completeInfo_eq_stale_iff] at stale
    rw [Viewer.completeInfo_stale stale, handedOut, List.append_nil]
  | completePreview answer found =>
    rw [isStale_preview, Viewer.completePreview_eq_stale_iff] at stale
    rw [Viewer.completePreview_stale stale]
  | hide => cases stale
  | noShow answer absent => rfl
  | noPreview answer absent => rfl

/-- The actions of a run other than those whose reply was that they came too late. -/
def withoutStale (console : Console) (d : Dialog) (actions : List Action) : List Action :=
  ((actions.zip (run console d actions).2).filter fun step => !step.2.isStale).map (·.1)

/-- Without its stale answers, a run ends in the same dialog and has the other replies. -/
theorem run_withoutStale (console : Console) (d : Dialog) (actions : List Action) :
    run console d (withoutStale console d actions) =
      ((run console d actions).1, (run console d actions).2.filter fun reply => !reply.isStale) := by
  induction actions generalizing d with
  | nil => rfl
  | cons action rest ih =>
    have ih := ih (step console d action).1
    by_cases stale : (step console d action).2.1.isStale = true
    · have hcons : withoutStale console d (action :: rest) =
          withoutStale console (step console d action).1 rest := by
        simp [withoutStale, run, stale]
      rw [step_of_stale stale] at hcons ih
      simp [hcons, ih, run, step_of_stale stale, stale]
    · have hcons : withoutStale console d (action :: rest) =
          action :: withoutStale console (step console d action).1 rest := by
        simp [withoutStale, run, stale]
      simp [hcons, ih, run, stale]

example (object : ManagedObject) (reference : MessageReference)
    (answer : Except ApiError FetchedInfo) :
    (run console initial [.begin object reference, .hide, .completeInfo 0 answer]).2.map
      Reply.isStale = [false, false, true] := rfl

theorem latest_step (console : Console) (d : Dialog) (action : Action) :
    (step console d action).1.viewer.latest =
      d.viewer.latest + if action.supersedes then 1 else 0 := by
  have turn := turn_step console d action
  generalize (step console d action).1 = after, (step console d action).2.1 = reply,
    (step console d action).2.2 = reports at turn ⊢
  cases turn with
  | begin object reference => rfl
  | completeInfo answer found => exact Viewer.latest_completeInfo _ _ _ _
  | completePreview answer found => exact Viewer.latest_completePreview _ _ _ _
  | hide => rfl
  | noShow answer absent => rfl
  | noPreview answer absent => rfl

theorem latest_reached (console : Console) (actions : List Action) :
    (reached console actions).viewer.latest = actions.countP Action.supersedes := by
  induction actions using List.reverseRecOn with
  | nil => rfl
  | append_singleton actions action ih =>
    rw [reached_concat, latest_step, ih, List.countP_append, List.countP_singleton]

/-- A show of the run drew this token when it began, and these actions came after. -/
def Drew (console : Console) (actions : List Action) (token : Nat) (since : List Action) : Prop :=
  ∃ before object reference, actions = before ++ .begin object reference :: since ∧
    ((reached console before).viewer.beginShow object reference).result.token = token

namespace Drew
variable {token : Nat} {since : List Action}

theorem concat (h : Drew console actions token since) (action : Action) :
    Drew console (actions ++ [action]) token (since ++ [action]) := by
  obtain ⟨before, object, reference, rfl, htoken⟩ := h
  exact ⟨before, object, reference, by simp, htoken⟩

/-- The token of a show, with those drawn since it began, makes up the token drawn last. -/
theorem latest (h : Drew console actions token since) :
    (reached console actions).viewer.latest = token + since.countP Action.supersedes := by
  obtain ⟨before, object, reference, rfl, rfl⟩ := h
  have htoken : ((reached console before).viewer.beginShow object reference).result.token =
      before.countP Action.supersedes + 1 := by
    rw [← latest_reached console]
    rfl
  rw [htoken, latest_reached, List.countP_append, List.countP_cons_of_pos rfl]
  omega

theorem superseded_iff (h : Drew console actions token since) :
    token ≠ (reached console actions).viewer.latest ↔ ∃ a ∈ since, a.supersedes = true := by
  rw [h.latest, ← List.countP_pos_iff]
  omega

theorem unique {others : List Action} (h : Drew console actions token since)
    (h' : Drew console actions token others) : others = since := by
  have hcount : since.countP Action.supersedes = others.countP Action.supersedes := by
    have := h.latest
    have := h'.latest
    omega
  have no_later {object : ManagedObject} {reference : MessageReference} {xs ys : List Action}
      (hsame : xs.countP Action.supersedes = ys.countP Action.supersedes) :
      ¬ .begin object reference :: xs <:+ ys := by
    intro hlater
    have := hlater.sublist.countP_le (p := Action.supersedes)
    rw [List.countP_cons_of_pos rfl] at this
    omega
  obtain ⟨before, object, reference, rfl, -⟩ := h
  obtain ⟨before', object', reference', hactions, -⟩ := h'
  have hsince : .begin object reference :: since <:+ before ++ .begin object reference :: since :=
    List.suffix_append _ _
  have hothers : .begin object' reference' :: others <:+ before ++ .begin object reference :: since :=
    hactions ▸ List.suffix_append _ _
  rcases List.suffix_or_suffix_of_suffix hsince hothers with hsuffix | hsuffix
  · rcases List.suffix_cons_iff.mp hsuffix with heq | hlater
    · exact (List.cons.inj heq).2.symm
    · exact absurd hlater (no_later hcount)
  · rcases List.suffix_cons_iff.mp hsuffix with heq | hlater
    · exact (List.cons.inj heq).2
    · exact absurd hlater (no_later hcount.symm)

end Drew

theorem drew_of_show {request : ShowRequest} (h : request ∈ (reached console actions).shows) :
    ∃ since, Drew console actions request.token since := by
  induction actions using List.reverseRecOn with
  | nil => cases h
  | append_singleton actions action ih =>
    rw [reached_concat, shows_step] at h
    rcases List.mem_append.mp h with hearlier | hlast
    · obtain ⟨since, hdrew⟩ := ih hearlier
      exact ⟨_, hdrew.concat action⟩
    · cases action with
      | begin object reference =>
        obtain rfl := List.mem_singleton.mp hlast
        exact ⟨[], actions, object, reference, rfl, rfl⟩
      | completeInfo i answer | completePreview i answer | hide => cases hlast

theorem drew_of_preview {request : PreviewRequest}
    (h : request ∈ (reached console actions).previews) :
    ∃ since, Drew console actions request.token since := by
  obtain ⟨shown, hshown, fetched, hplan⟩ := planned_of_mem_previews h
  rw [(Viewer.previewRequest_eq_some.mp hplan).2.2.2]
  exact drew_of_show hshown

theorem drew_of_token {token : Nat} (h : (reached console actions).token? action = some token) :
    ∃ since, Drew console actions token since := by
  cases action with
  | begin object reference => cases h
  | completeInfo i answer =>
    obtain ⟨request, found, rfl⟩ := Option.map_eq_some_iff.mp h
    exact drew_of_show (List.mem_of_getElem? found)
  | completePreview i answer =>
    obtain ⟨request, found, rfl⟩ := Option.map_eq_some_iff.mp h
    exact drew_of_preview (List.mem_of_getElem? found)
  | hide => cases h

/-- How a run treats answers that come too late. -/
structure KeepsStaleOut (console : Console) (actions : List Action) : Prop where
  /-- Only an answer to a request that was handed out is ever stale. -/
  answers : ∀ earlier action, earlier ++ [action] <+: actions →
    (step console (reached console earlier) action).2.1.isStale = true →
      ∃ token, (reached console earlier).token? action = some token
  /-- The show that such an answer is for is one of the run, and the answer is stale exactly if a show
  began or the dialog was hidden since that show began. -/
  superseded : ∀ earlier action token, earlier ++ [action] <+: actions →
    (reached console earlier).token? action = some token →
      ∃ since, Drew console earlier token since ∧
        (∀ others, Drew console earlier token others → others = since) ∧
        ((step console (reached console earlier) action).2.1.isStale = true ↔
          ∃ a ∈ since, a.supersedes = true)
  /-- The run without its stale answers ends in the same dialog, with the other replies. -/
  traceless : run console initial (withoutStale console initial actions) =
    (reached console actions, (run console initial actions).2.filter fun reply => !reply.isStale)

/-- In every run, whatever requests are answered and how often, an answer is stale exactly if its show
was superseded, and stale answers leave no trace. -/
theorem run_keepsStaleOut (console : Console) (actions : List Action) :
    KeepsStaleOut console actions where
  answers := by
    intro earlier action _ stale
    obtain ⟨token, htoken, -⟩ := (isStale_step_iff console _ action).mp stale
    exact ⟨token, htoken⟩
  superseded := by
    intro earlier action token _ htoken
    obtain ⟨since, hdrew⟩ := drew_of_token htoken
    refine ⟨since, hdrew, fun others hothers => hdrew.unique hothers, ?_⟩
    rw [isStale_step_iff, htoken, ← hdrew.superseded_iff]
    simp
  traceless := run_withoutStale console initial actions

end MessageInspector.Dialog
