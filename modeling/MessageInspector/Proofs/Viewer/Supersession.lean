import MessageInspector.Proofs.Viewer.Completion
import MessageInspector.Proofs.Viewer.SharedHistory
/-!
# Supersession

Beginning a show and hiding the dialog draw a token, and nothing else does. So a show holds the
token drawn last exactly as long as nothing has overtaken it, and then it is the newest show.
-/
namespace MessageInspector.SharedViewer
variable {console : Console}

theorem requests_setStage (s : SharedViewer) (i : Nat) (stage : ShowStage) :
    (s.setStage i stage).shows.map (·.request) = s.shows.map (·.request) := by
  apply List.ext_getElem?
  intro j
  rw [List.getElem?_map, List.getElem?_map, getElem?_setStage]
  split <;> cases s.shows[j]? <;> rfl

theorem requests_step (s : SharedViewer) (action : Action) :
    (step console s action).1.shows.map (·.request) = s.shows.map (·.request) ++
      match action with
      | .begin object reference => [(s.viewer.beginShow object reference).result]
      | _ => [] := by
  have turn := turn_step console s action
  generalize (step console s action).1 = after, (step console s action).2 = events at turn ⊢
  cases turn with
  | begin object reference => exact List.map_append
  | requestInfo ready | answerInfo answer ready | completeInfo ready | answerContent answer ready
  | completePreview ready =>
    rw [requests_setStage]
    exact (List.append_nil _).symm
  | hide => exact (List.append_nil _).symm
  | idle out =>
    cases action with
    | begin object reference => exact out.elim
    | _ => exact (List.append_nil _).symm

theorem latest_step (s : SharedViewer) (action : Action) :
    (step console s action).1.viewer.latest =
      s.viewer.latest + if action.supersedes then 1 else 0 := by
  have turn := turn_step console s action
  generalize (step console s action).1 = after, (step console s action).2 = events at turn ⊢
  cases turn with
  | begin object reference => rfl
  | completeInfo ready => exact Viewer.latest_completeInfo _ _ _ _
  | completePreview ready => exact Viewer.latest_completePreview _ _ _ _
  | requestInfo ready | answerInfo answer ready | answerContent answer ready => rfl
  | hide => rfl
  | idle out =>
    cases action with
    | begin object reference => exact out.elim
    | hide => exact out.elim
    | _ => rfl

theorem latest_reached (console : Console) (actions : List Action) :
    (reached console actions).viewer.latest = actions.countP Action.supersedes := by
  induction actions using List.reverseRecOn with
  | nil => rfl
  | append_singleton actions action ih =>
    rw [reached_concat, latest_step, ih, List.countP_append, List.countP_singleton]

theorem subjects_reached (console : Console) (actions : List Action) :
    ((reached console actions).shows.map (·.request)).map (fun r => (r.object, r.reference)) =
      begun actions := by
  induction actions using List.reverseRecOn with
  | nil => rfl
  | append_singleton actions action ih =>
    rw [reached_concat, requests_step, List.map_append, ih, begun, begun, filterMap_concat]
    cases action <;> rfl

theorem length_begun (actions : List Action) :
    (begun actions).length = actions.countP Action.begins := by
  induction actions with
  | nil => rfl
  | cons action rest ih =>
    rw [List.countP_cons, ← ih]
    cases action <;> rfl

theorem length_reached (console : Console) (actions : List Action) :
    (reached console actions).shows.length = actions.countP Action.begins := by
  rw [← length_begun, ← subjects_reached console, List.length_map, List.length_map]

/-- The token of a show, with those drawn since it began, makes up the token drawn last. -/
theorem token_reached (actions : List Action) {i : Nat} {request : ShowRequest}
    (h : ((reached console actions).shows.map (·.request))[i]? = some request) :
    request.token + (since i actions).countP Action.supersedes =
      (reached console actions).viewer.latest := by
  induction actions using List.reverseRecOn with
  | nil => simp [reached, run, initial] at h
  | append_singleton actions action ih =>
    have hlength : ((reached console actions).shows.map (·.request)).length =
        actions.countP Action.begins := by
      rw [List.length_map, length_reached]
    rw [reached_concat, requests_step] at h
    rw [reached_concat, latest_step, since_concat]
    by_cases hi : i < actions.countP Action.begins
    · rw [List.getElem?_append_left (hlength ▸ hi)] at h
      have := ih h
      rw [if_pos hi, List.countP_append, List.countP_singleton]
      omega
    · rw [List.getElem?_append_right (by omega)] at h
      rw [if_neg hi, List.countP_nil]
      cases action with
      | begin object reference =>
        obtain rfl := List.mem_singleton.mp (List.mem_of_getElem? h)
        rfl
      | _ => simp at h

variable {actions : List Action} {i : Nat} {shown : Show}

theorem lt_begins (h : (reached console actions).shows[i]? = some shown) :
    i < actions.countP Action.begins := by
  rw [← length_reached console]
  exact (List.getElem?_eq_some_iff.mp h).1

theorem overtaken_iff (h : (reached console actions).shows[i]? = some shown) :
    Overtaken actions i ↔ shown.request.token ≠ (reached console actions).viewer.latest := by
  have hrequest : ((reached console actions).shows.map (·.request))[i]? = some shown.request := by
    rw [List.getElem?_map, h]
    rfl
  have htoken := token_reached actions hrequest
  have hpos : 0 < (since i actions).countP Action.supersedes ↔ Overtaken actions i :=
    List.countP_pos_iff
  rw [← hpos]
  omega

theorem current_iff (h : (reached console actions).shows[i]? = some shown) :
    (reached console actions).viewer.isCurrent shown.request.token = true ↔
      ¬ Overtaken actions i := by
  rw [overtaken_iff h, not_not, Viewer.isCurrent, beq_iff_eq]

theorem newest_of_not_overtaken (h : (reached console actions).shows[i]? = some shown)
    (current : ¬ Overtaken actions i) : (reached console actions).shows.length = i + 1 := by
  have hnone : (since i actions).countP Action.begins = 0 := by
    rw [List.countP_eq_zero]
    intro action hmem hbegins
    apply current
    refine ⟨action, hmem, ?_⟩
    cases action with
    | begin object reference => rfl
    | _ => cases hbegins
  rw [length_reached, countP_begins_eq (lt_begins h), hnone]

theorem begun_append (earlier later : List Action) :
    begun (earlier ++ later) = begun earlier ++ begun later := List.filterMap_append

theorem begun_of_shown {shown : Show} (h : (reached console actions).shows[i]? = some shown) :
    (begun actions)[i]? = some (shown.request.object, shown.request.reference) := by
  rw [← subjects_reached console, List.getElem?_map, List.getElem?_map, h]
  rfl

theorem begun_of_earlier {earlier : List Action} (later : List Action) {shown : Show}
    (h : (reached console earlier).shows[i]? = some shown) :
    (begun (earlier ++ later))[i]? = some (shown.request.object, shown.request.reference) := by
  have hbegun := begun_of_shown h
  rw [begun_append, List.getElem?_append_left (List.getElem?_eq_some_iff.mp hbegun).1, hbegun]

end MessageInspector.SharedViewer
