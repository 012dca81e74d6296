import MessageInspector.Proofs.Fetch.Exchange
import MessageInspector.Proofs.History
import MessageInspector.Viewer.Shared
/-!
# Histories of shared viewers

What the shows on a shared viewer did in a run: which calls each made and which answers it got. Shows
are numbered in the order in which they began, and a show is overtaken as soon as another show begins
or the dialog is hidden.
-/
namespace MessageInspector

def ShowRequest.fetch (request : ShowRequest) (scope : FetchScope) : InfoFetch :=
  ⟨request.object, request.reference.id, scope⟩

namespace SharedViewer

def Action.begins : Action → Bool
  | .begin _ _ => true
  | _ => false

/-- The action draws a token and so overtakes every show under way. -/
def Action.supersedes : Action → Bool
  | .begin _ _ => true
  | .hide => true
  | _ => false

def Action.show? : Action → Option Nat
  | .begin _ _ => none
  | .requestInfo i => some i
  | .answerInfo i _ => some i
  | .completeInfo i => some i
  | .answerContent i _ => some i
  | .completePreview i => some i
  | .hide => none

def OutOfTurn (s : SharedViewer) : Action → Prop
  | .begin _ _ => False
  | .requestInfo i => ∀ request, s.shows[i]? ≠ some ⟨request, .begun⟩
  | .answerInfo i _ => ∀ request fetch, s.shows[i]? ≠ some ⟨request, .awaitingInfo fetch⟩
  | .completeInfo i => ∀ request answer, s.shows[i]? ≠ some ⟨request, .infoArrived answer⟩
  | .answerContent i _ => ∀ request preview, s.shows[i]? ≠ some ⟨request, .awaitingContent preview⟩
  | .completePreview i =>
    ∀ request preview answer, s.shows[i]? ≠ some ⟨request, .contentArrived preview answer⟩
  | .hide => False

/-- All that an action can do. -/
inductive Turn (console : Console) (s : SharedViewer) : Action → SharedViewer → List Event → Prop
  | begin (object reference) :
      Turn console s (.begin object reference)
        { s with
          viewer := (s.viewer.beginShow object reference).viewer
          shows := s.shows ++ [⟨(s.viewer.beginShow object reference).result, .begun⟩] }
        ((s.viewer.beginShow object reference).reports.map .reported)
  | requestInfo {i request} (ready : s.shows[i]? = some ⟨request, .begun⟩) :
      Turn console s (.requestInfo i) (s.setStage i (.awaitingInfo (request.fetch s.session)))
        (request.fetch s.session).events
  | answerInfo {i request fetch} (answer)
      (ready : s.shows[i]? = some ⟨request, .awaitingInfo fetch⟩) :
      Turn console s (.answerInfo i answer)
        ({ s with session := (fetch.answer s.session answer).session }.setStage i
          (stageOf (fetch.answer s.session answer).next))
        (fetch.answer s.session answer).events
  | completeInfo {i request answer} (ready : s.shows[i]? = some ⟨request, .infoArrived answer⟩) :
      Turn console s (.completeInfo i)
        ({ s with viewer := (s.viewer.completeInfo console request answer).viewer }.setStage i
          (stageAfterInfo request.token (s.viewer.completeInfo console request answer).result))
        ((s.viewer.completeInfo console request answer).reports.map .reported ++
          eventsAfterInfo (s.viewer.completeInfo console request answer).result)
  | answerContent {i request preview} (answer)
      (ready : s.shows[i]? = some ⟨request, .awaitingContent preview⟩) :
      Turn console s (.answerContent i answer)
        (s.setStage i (.contentArrived preview (preview.fetch.receive answer)))
        ((preview.fetch.reports answer).map .reported)
  | completePreview {i request preview answer}
      (ready : s.shows[i]? = some ⟨request, .contentArrived preview answer⟩) :
      Turn console s (.completePreview i)
        ({ s with viewer := (s.viewer.completePreview console preview answer).viewer }.setStage i
          (.finished (outcomeAfterPreview request.token
            (s.viewer.completePreview console preview answer).result)))
        ((s.viewer.completePreview console preview answer).reports.map .reported)
  | hide : Turn console s .hide { s with viewer := s.viewer.hide } []
  | idle {action} (out : s.OutOfTurn action) : Turn console s action s []

theorem turn_step (console : Console) (s : SharedViewer) (action : Action) :
    Turn console s action (step console s action).1 (step console s action).2 := by
  have idle {action : Action} (out : s.OutOfTurn action) : Turn console s action s [] := .idle out
  cases action with
  | begin object reference => exact .begin object reference
  | hide => exact .hide
  | requestInfo i =>
    simp only [step]
    split
    · rename_i request ready
      exact .requestInfo ready
    · rename_i other
      exact idle other
  | answerInfo i answer =>
    simp only [step]
    split
    · rename_i request fetch ready
      exact .answerInfo answer ready
    · rename_i other
      exact idle other
  | completeInfo i =>
    simp only [step]
    split
    · rename_i request answer ready
      exact .completeInfo ready
    · rename_i other
      exact idle other
  | answerContent i answer =>
    simp only [step]
    split
    · rename_i request preview ready
      exact .answerContent answer ready
    · rename_i other
      exact idle other
  | completePreview i =>
    simp only [step]
    split
    · rename_i request preview answer ready
      exact .completePreview ready
    · rename_i other
      exact idle other

theorem getElem?_setStage (s : SharedViewer) (i j : Nat) (stage : ShowStage) :
    (s.setStage i stage).shows[j]? =
      if i = j then s.shows[j]?.map ({ · with stage := stage }) else s.shows[j]? := by
  simp only [setStage, List.getElem?_modify]
  split <;> simp_all

theorem length_setStage (s : SharedViewer) (i : Nat) (stage : ShowStage) :
    (s.setStage i stage).shows.length = s.shows.length := by
  simp [setStage]

theorem stage_eq_some {s : SharedViewer} {i : Nat} {stage : ShowStage} :
    s.stage? i = some stage ↔ ∃ request, s.shows[i]? = some ⟨request, stage⟩ := by
  rw [stage?, Option.map_eq_some_iff]
  constructor
  · rintro ⟨⟨request, stage⟩, hshown, rfl⟩
    exact ⟨request, hshown⟩
  · rintro ⟨request, hshown⟩
    exact ⟨⟨request, stage⟩, hshown, rfl⟩

theorem getElem?_step_of_show_ne {console : Console} {s : SharedViewer} {action : Action} {i : Nat}
    (hi : i < s.shows.length) (hne : action.show? ≠ some i) :
    (step console s action).1.shows[i]? = s.shows[i]? := by
  have turn := turn_step console s action
  generalize (step console s action).1 = after, (step console s action).2 = events at turn ⊢
  cases turn with
  | begin object reference => exact List.getElem?_append_left hi
  | requestInfo ready | answerInfo answer ready | completeInfo ready | answerContent answer ready
  | completePreview ready =>
    rw [getElem?_setStage, if_neg (fun h => hne (congrArg some h))]
  | hide => rfl
  | idle out => rfl

def reached (console : Console) (actions : List Action) : SharedViewer :=
  (run console initial actions).1

def moments (console : Console) (actions : List Action) : List (Moment SharedViewer Action) :=
  history (fun s action => (step console s action).1) initial actions

def begun (actions : List Action) : List (ManagedObject × MessageReference) :=
  actions.filterMap fun
    | .begin object reference => some (object, reference)
    | _ => none

def since (i : Nat) : List Action → List Action
  | [] => []
  | action :: rest =>
    if action.begins then
      match i with
      | 0 => rest
      | i + 1 => since i rest
    else since i rest

/-- Another show began, or the dialog was hidden, after the show began. -/
def Overtaken (actions : List Action) (i : Nat) : Prop := ∃ action ∈ since i actions, action.supersedes

def infoExchange? (i : Nat) (m : Moment SharedViewer Action) : Option InfoExchange :=
  match m.action with
  | .answerInfo j answer =>
    match m.before.shows[j]? with
    | some ⟨_, .awaitingInfo fetch⟩ => if j = i then some ⟨fetch, answer⟩ else none
    | _ => none
  | _ => none

def infoExchanges (console : Console) (actions : List Action) (i : Nat) : List InfoExchange :=
  (moments console actions).filterMap (infoExchange? i)

def contentExchange? (i : Nat) (m : Moment SharedViewer Action) : Option ContentExchange :=
  match m.action with
  | .answerContent j answer =>
    match m.before.shows[j]? with
    | some ⟨_, .awaitingContent preview⟩ => if j = i then some ⟨preview.fetch, answer⟩ else none
    | _ => none
  | _ => none

def contentExchanges (console : Console) (actions : List Action) (i : Nat) : List ContentExchange :=
  (moments console actions).filterMap (contentExchange? i)

def calls (console : Console) (actions : List Action) (i : Nat) : List Call :=
  (moments console actions).flatMap fun m =>
    if m.action.show? = some i then Event.calls (step console m.before m.action).2 else []

theorem infoExchange?_eq_some {i : Nat} {m : Moment SharedViewer Action} {x : InfoExchange} :
    infoExchange? i m = some x ↔ ∃ request, m.action = .answerInfo i x.answer ∧
      m.before.shows[i]? = some ⟨request, .awaitingInfo x.fetch⟩ := by
  obtain ⟨before, action⟩ := m
  constructor
  · intro h
    simp only [infoExchange?] at h
    split at h
    · split at h
      · rename_i request fetch ready
        split at h
        · rename_i hi
          subst hi
          cases h
          exact ⟨request, rfl, ready⟩
        · cases h
      · cases h
    · cases h
  · rintro ⟨request, rfl, ready⟩
    simp only [infoExchange?, ready, if_pos]

theorem contentExchange?_eq_some {i : Nat} {m : Moment SharedViewer Action}
    {x : ContentExchange} :
    contentExchange? i m = some x ↔ ∃ request preview, m.action = .answerContent i x.answer ∧
      m.before.shows[i]? = some ⟨request, .awaitingContent preview⟩ ∧ preview.fetch = x.fetch := by
  obtain ⟨before, action⟩ := m
  constructor
  · intro h
    simp only [contentExchange?] at h
    split at h
    · split at h
      · rename_i request preview ready
        split at h
        · rename_i hi
          subst hi
          cases h
          exact ⟨request, preview, rfl, ready, rfl⟩
        · cases h
      · cases h
    · cases h
  · rintro ⟨request, preview, rfl, ready, hfetch⟩
    simp only [contentExchange?, ready, if_pos, hfetch]

section Concat
variable (console : Console) (actions : List Action) (action : Action) (i : Nat)

theorem runs : Runs (fun s action => (step console s action).1) (run console) :=
  ⟨fun _ => rfl, fun _ _ _ => rfl⟩

theorem reached_concat :
    reached console (actions ++ [action]) = (step console (reached console actions) action).1 :=
  (runs console).fst_concat initial actions action

theorem moments_concat :
    moments console (actions ++ [action]) =
      moments console actions ++ [⟨reached console actions, action⟩] :=
  (runs console).history_concat initial actions action

theorem moments_append (earlier later : List Action) :
    moments console (earlier ++ later) = moments console earlier ++
      history (fun s action => (step console s action).1) (reached console earlier) later :=
  (runs console).history_append initial earlier later

theorem infoExchanges_concat :
    infoExchanges console (actions ++ [action]) i = infoExchanges console actions i ++
      (infoExchange? i ⟨reached console actions, action⟩).toList := by
  rw [infoExchanges, moments_concat, filterMap_concat, infoExchanges]

theorem contentExchanges_concat :
    contentExchanges console (actions ++ [action]) i = contentExchanges console actions i ++
      (contentExchange? i ⟨reached console actions, action⟩).toList := by
  rw [contentExchanges, moments_concat, filterMap_concat, contentExchanges]

theorem calls_concat :
    calls console (actions ++ [action]) i = calls console actions i ++
      if action.show? = some i then
        Event.calls (step console (reached console actions) action).2 else [] := by
  rw [calls, moments_concat, List.flatMap_append, List.flatMap_singleton]
  rfl

theorem since_concat :
    since i (actions ++ [action]) =
      if i < actions.countP Action.begins then since i actions ++ [action] else [] := by
  induction actions generalizing i with
  | nil => cases i <;> simp [since]
  | cons first rest ih =>
    simp only [List.cons_append, since, List.countP_cons]
    by_cases hf : first.begins
    · cases i with
      | zero => simp [hf]
      | succ i => simp [hf, ih]
    · simp [hf, ih]

end Concat

theorem mem_moments {console : Console} {actions : List Action} {m : Moment SharedViewer Action} :
    m ∈ moments console actions ↔
      ∃ earlier later, actions = earlier ++ m.action :: later ∧
        m.before = reached console earlier :=
  (runs console).mem_history initial actions m

theorem countP_begins_eq {actions : List Action} {i : Nat} (h : i < actions.countP Action.begins) :
    actions.countP Action.begins = i + 1 + (since i actions).countP Action.begins := by
  induction actions using List.reverseRecOn with
  | nil => simp at h
  | append_singleton actions action ih =>
    rw [since_concat]
    rw [List.countP_append, List.countP_singleton] at h ⊢
    by_cases hi : i < actions.countP Action.begins
    · rw [if_pos hi, List.countP_append, List.countP_singleton, ih hi]
      omega
    · rw [if_neg hi]
      by_cases ha : action.begins
      · rw [if_pos ha] at h ⊢
        rw [List.countP_nil]
        omega
      · rw [if_neg ha] at h
        omega

end SharedViewer
end MessageInspector
