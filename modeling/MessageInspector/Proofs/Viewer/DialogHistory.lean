import MessageInspector.Proofs.Viewer.Supersession
import MessageInspector.Viewer.Dialog
/-!
# Histories of dialogs

What a dialog did in a run: the steps taken, and which show requests were answered on the way. A
dialog does not keep anyone from answering a request twice, so that every request is answered once
at most is a property of the run.
-/
namespace MessageInspector.Dialog

/-- All that an action can do. -/
inductive Turn (console : Console) (d : Dialog) : Action → Dialog → Reply → List Report → Prop
  | begin (object reference) :
      Turn console d (.begin object reference)
        { d with
          viewer := (d.viewer.beginShow object reference).viewer
          shows := d.shows ++ [(d.viewer.beginShow object reference).result] }
        (.begun (d.viewer.beginShow object reference).result)
        (d.viewer.beginShow object reference).reports
  | completeInfo {i request} (answer) (found : d.shows[i]? = some request) :
      Turn console d (.completeInfo i answer)
        { d with
          viewer := (d.viewer.completeInfo console request answer).viewer
          previews := d.previews ++ handedOut (d.viewer.completeInfo console request answer).result }
        (.info (d.viewer.completeInfo console request answer).result)
        (d.viewer.completeInfo console request answer).reports
  | completePreview {i request} (answer) (found : d.previews[i]? = some request) :
      Turn console d (.completePreview i answer)
        { d with viewer := (d.viewer.completePreview console request answer).viewer }
        (.preview (d.viewer.completePreview console request answer).result)
        (d.viewer.completePreview console request answer).reports
  | hide : Turn console d .hide { d with viewer := d.viewer.hide } .hidden []
  | noShow {i} (answer) (absent : d.shows[i]? = none) :
      Turn console d (.completeInfo i answer) d .noSuchRequest []
  | noPreview {i} (answer) (absent : d.previews[i]? = none) :
      Turn console d (.completePreview i answer) d .noSuchRequest []

theorem turn_step (console : Console) (d : Dialog) (action : Action) :
    Turn console d action (step console d action).1 (step console d action).2.1
      (step console d action).2.2 := by
  cases action with
  | begin object reference => exact .begin object reference
  | hide => exact .hide
  | completeInfo i answer =>
    simp only [step]
    split
    · rename_i absent
      exact .noShow answer absent
    · rename_i request found
      exact .completeInfo answer found
  | completePreview i answer =>
    simp only [step]
    split
    · rename_i absent
      exact .noPreview answer absent
    · rename_i request found
      exact .completePreview answer found

theorem shows_step (console : Console) (d : Dialog) (action : Action) :
    (step console d action).1.shows = d.shows ++
      match action with
      | .begin object reference => [(d.viewer.beginShow object reference).result]
      | _ => [] := by
  have turn := turn_step console d action
  generalize (step console d action).1 = after, (step console d action).2.1 = reply,
    (step console d action).2.2 = reports at turn ⊢
  cases turn with
  | begin object reference => rfl
  | completeInfo answer found | completePreview answer found | hide | noShow answer absent
  | noPreview answer absent => exact (List.append_nil _).symm

theorem mem_handedOut {console : Console} {v : Viewer} {request : ShowRequest}
    {answer : Except ApiError FetchedInfo} {preview : PreviewRequest}
    (h : preview ∈ handedOut (v.completeInfo console request answer).result) :
    ∃ fetched, Viewer.previewRequest request (Viewer.modelOf console request fetched) =
      some preview := by
  by_cases current : v.isCurrent request.token = true
  · cases answer with
    | error e =>
      rw [Viewer.completeInfo_error current] at h
      cases h
    | ok fetched =>
      rw [Viewer.completeInfo_ok current] at h
      exact ⟨fetched, Option.mem_toList.mp h⟩
  · rw [Viewer.completeInfo_stale current] at h
    cases h

def reached (console : Console) (actions : List Action) : Dialog := (run console initial actions).1

def moments (console : Console) (actions : List Action) : List (Moment Dialog Action) :=
  history (fun d action => (step console d action).1) initial actions

def answersShow? (m : Moment Dialog Action) : Option Nat :=
  match m.action with
  | .completeInfo i _ => if i < m.before.shows.length then some i else none
  | _ => none

def answeredShows (console : Console) (actions : List Action) : List Nat :=
  (moments console actions).filterMap answersShow?

def AnsweredOnce (console : Console) (actions : List Action) : Prop :=
  (answeredShows console actions).Nodup

section Concat
variable (console : Console) (actions : List Action) (action : Action)

theorem runs : Runs (fun d action => (step console d action).1) (run console) :=
  ⟨fun _ => rfl, fun _ _ _ => rfl⟩

theorem reached_concat :
    reached console (actions ++ [action]) = (step console (reached console actions) action).1 :=
  (runs console).fst_concat initial actions action

theorem moments_concat :
    moments console (actions ++ [action]) =
      moments console actions ++ [⟨reached console actions, action⟩] :=
  (runs console).history_concat initial actions action

theorem answeredShows_concat :
    answeredShows console (actions ++ [action]) = answeredShows console actions ++
      (answersShow? ⟨reached console actions, action⟩).toList := by
  rw [answeredShows, moments_concat, filterMap_concat, answeredShows]

end Concat

theorem AnsweredOnce.of_append {console : Console} {earlier later : List Action}
    (h : AnsweredOnce console (earlier ++ later)) : AnsweredOnce console earlier := by
  rw [AnsweredOnce, answeredShows, moments, history_append, List.filterMap_append] at h
  exact (List.nodup_append.mp h).1

theorem AnsweredOnce.fresh {console : Console} {actions : List Action} {i : Nat}
    {request : ShowRequest} {answer : Except ApiError FetchedInfo}
    (once : AnsweredOnce console (actions ++ [.completeInfo i answer]))
    (found : (reached console actions).shows[i]? = some request) :
    i ∉ answeredShows console actions := by
  have hi := (List.getElem?_eq_some_iff.mp found).1
  rw [AnsweredOnce, answeredShows_concat] at once
  intro again
  exact (List.nodup_append.mp once).2.2 i again i (by simp [answersShow?, hi]) rfl

theorem planned_of_mem_previews {console : Console} {actions : List Action}
    {preview : PreviewRequest} (h : preview ∈ (reached console actions).previews) :
    ∃ request ∈ (reached console actions).shows, ∃ fetched,
      Viewer.previewRequest request (Viewer.modelOf console request fetched) = some preview := by
  induction actions using List.reverseRecOn with
  | nil => cases h
  | append_singleton actions action ih =>
    obtain ⟨request, hrequest, fetched, hplan⟩ :
        ∃ request ∈ (reached console actions).shows, ∃ fetched,
          Viewer.previewRequest request (Viewer.modelOf console request fetched) = some preview := by
      rw [reached_concat] at h
      have turn := turn_step console (reached console actions) action
      generalize (step console (reached console actions) action).1 = after,
        (step console (reached console actions) action).2.1 = reply,
        (step console (reached console actions) action).2.2 = reports at turn h
      cases turn with
      | completeInfo answer found =>
        rcases List.mem_append.mp h with hearlier | hlast
        · exact ih hearlier
        · obtain ⟨fetched, hplan⟩ := mem_handedOut hlast
          exact ⟨_, List.mem_of_getElem? found, fetched, hplan⟩
      | begin object reference | completePreview answer found | hide | noShow answer absent
      | noPreview answer absent => exact ih h
    refine ⟨request, ?_, fetched, hplan⟩
    rw [reached_concat, shows_step]
    exact List.mem_append_left _ hrequest

structure TokensInOrder (d : Dialog) : Prop where
  increasing : d.shows.Pairwise fun earlier later => earlier.token < later.token
  drawn : ∀ request ∈ d.shows, request.token ≤ d.viewer.latest

namespace TokensInOrder
variable {d : Dialog}

theorem index_unique (h : d.TokensInOrder) {i j : Nat} {request other : ShowRequest}
    (hi : d.shows[i]? = some request) (hj : d.shows[j]? = some other)
    (same : request.token = other.token) : i = j := by
  obtain ⟨hi', rfl⟩ := List.getElem?_eq_some_iff.mp hi
  obtain ⟨hj', rfl⟩ := List.getElem?_eq_some_iff.mp hj
  have increasing := List.pairwise_iff_getElem.mp h.increasing
  rcases Nat.lt_trichotomy i j with hlt | rfl | hlt
  · have := increasing i j hi' hj' hlt
    omega
  · rfl
  · have := increasing j i hj' hi' hlt
    omega

theorem step (console : Console) (h : d.TokensInOrder) (action : Action) :
    (step console d action).1.TokensInOrder := by
  have turn := turn_step console d action
  generalize (Dialog.step console d action).1 = after, (Dialog.step console d action).2.1 = reply,
    (Dialog.step console d action).2.2 = reports at turn ⊢
  cases turn with
  | begin object reference =>
    constructor
    · refine List.pairwise_append.mpr ⟨h.increasing, List.pairwise_singleton _ _, ?_⟩
      intro earlier hearlier later hlater
      obtain rfl := List.mem_singleton.mp hlater
      exact Nat.lt_succ_of_le (h.drawn earlier hearlier)
    · intro request hrequest
      rcases List.mem_append.mp hrequest with hearlier | hlast
      · exact Nat.le_succ_of_le (h.drawn request hearlier)
      · obtain rfl := List.mem_singleton.mp hlast
        exact Nat.le_refl _
  | completeInfo answer found =>
    refine ⟨h.increasing, ?_⟩
    intro request hrequest
    rw [Viewer.latest_completeInfo]
    exact h.drawn request hrequest
  | completePreview answer found =>
    refine ⟨h.increasing, ?_⟩
    intro request hrequest
    rw [Viewer.latest_completePreview]
    exact h.drawn request hrequest
  | hide =>
    refine ⟨h.increasing, ?_⟩
    intro request hrequest
    exact Nat.le_succ_of_le (h.drawn request hrequest)
  | noShow answer absent => exact h
  | noPreview answer absent => exact h

end TokensInOrder

theorem tokensInOrder_reached (console : Console) (actions : List Action) :
    (reached console actions).TokensInOrder := by
  induction actions using List.reverseRecOn with
  | nil => exact ⟨.nil, nofun⟩
  | append_singleton actions action ih =>
    rw [reached_concat]
    exact ih.step console action

end MessageInspector.Dialog
