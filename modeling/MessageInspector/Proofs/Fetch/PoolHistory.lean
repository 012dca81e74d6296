import MessageInspector.Fetch.Pool
import MessageInspector.Proofs.Fetch.Exchange
import MessageInspector.Proofs.History
/-!
# Histories of fetcher pools

What the fetches and the sessions of a pool did in a run: which calls each fetch made, which answers
it got, and what was reported on behalf of each session. Each of these is read off the steps of the
run, and each is extended by one step at a time.
-/
namespace MessageInspector

def FetchStage.of : InfoFetchNext → FetchStage
  | .again fetch => .waiting fetch
  | .done answer => .finished answer

def FetchStage.next : FetchStage → InfoFetchNext
  | .waiting fetch => .again fetch
  | .finished answer => .done answer

@[simp] theorem FetchStage.next_of (next : InfoFetchNext) : (FetchStage.of next).next = next := by
  cases next <;> rfl

namespace FetcherPool

def waiting? (pool : FetcherPool) (i : Nat) : Option InfoFetch :=
  match pool.fetches[i]? with
  | some ⟨_, .waiting fetch⟩ => some fetch
  | _ => none

structure WellFormed (pool : FetcherPool) : Prop where
  fetchers : ∀ session ∈ pool.fetchers, session < pool.sessions.length
  fetches : ∀ pooled ∈ pool.fetches, pooled.session < pool.sessions.length

def OutOfTurn (pool : FetcherPool) : Action → Prop
  | .create => False
  | .clone fetcher => pool.fetchers[fetcher]? = none
  | .start fetcher _ _ => pool.fetchers[fetcher]? = none
  | .answer i _ => pool.waiting? i = none

/-- All that an action can do. -/
inductive Turn (pool : FetcherPool) : Action → FetcherPool → List Event → Prop
  | create :
      Turn pool .create
        { pool with
          sessions := pool.sessions ++ [.headersIncluded]
          fetchers := pool.fetchers ++ [pool.sessions.length] } []
  | clone {fetcher session} (found : pool.fetchers[fetcher]? = some session) :
      Turn pool (.clone fetcher) { pool with fetchers := pool.fetchers ++ [session] } []
  | start {fetcher session scope} (object id) (found : pool.fetchers[fetcher]? = some session)
      (current : pool.sessions[session]? = some scope) :
      Turn pool (.start fetcher object id)
        { pool with fetches := pool.fetches ++ [⟨session, .waiting ⟨object, id, scope⟩⟩] }
        (InfoFetch.events ⟨object, id, scope⟩)
  | answer {i session fetch scope} (answer) (found : pool.fetches[i]? = some ⟨session, .waiting fetch⟩)
      (current : pool.sessions[session]? = some scope) :
      Turn pool (.answer i answer)
        { pool with
          sessions := pool.sessions.set session (fetch.answer scope answer).session
          fetches := pool.fetches.set i ⟨session, .of (fetch.answer scope answer).next⟩ }
        (fetch.answer scope answer).events
  | idle {action} (out : pool.OutOfTurn action) : Turn pool action pool []

theorem step_start {pool : FetcherPool} {fetcher session : Nat} {scope : FetchScope}
    (object : ManagedObject) (id : MessageId) (found : pool.fetchers[fetcher]? = some session)
    (current : pool.sessions[session]? = some scope) :
    pool.step (.start fetcher object id) =
      ({ pool with fetches := pool.fetches ++ [⟨session, .waiting ⟨object, id, scope⟩⟩] },
        InfoFetch.events ⟨object, id, scope⟩) := by
  simp [step, found, current]

theorem step_answer {pool : FetcherPool} {i session : Nat} {fetch : InfoFetch} {scope : FetchScope}
    (answer : Except ApiError MessageInfo)
    (found : pool.fetches[i]? = some ⟨session, .waiting fetch⟩)
    (current : pool.sessions[session]? = some scope) :
    pool.step (.answer i answer) =
      ({ pool with
          sessions := pool.sessions.set session (fetch.answer scope answer).session
          fetches := pool.fetches.set i ⟨session, .of (fetch.answer scope answer).next⟩ },
        (fetch.answer scope answer).events) := by
  simp only [step, found, current]
  cases (fetch.answer scope answer).next <;> rfl

theorem turn_step {pool : FetcherPool} (wf : pool.WellFormed) (action : Action) :
    Turn pool action (pool.step action).1 (pool.step action).2 := by
  have idle {action : Action} (out : pool.OutOfTurn action) : Turn pool action pool [] := .idle out
  cases action with
  | create => exact .create
  | clone fetcher =>
    cases hf : pool.fetchers[fetcher]? with
    | none =>
      have out : pool.OutOfTurn (.clone fetcher) := hf
      simpa [step, hf] using idle out
    | some session => simpa [step, hf] using Turn.clone hf
  | start fetcher object id =>
    cases hf : pool.fetchers[fetcher]? with
    | none =>
      have out : pool.OutOfTurn (.start fetcher object id) := hf
      simpa [step, hf] using idle out
    | some session =>
      obtain ⟨scope, hs⟩ : ∃ scope, pool.sessions[session]? = some scope :=
        ⟨_, List.getElem?_eq_getElem (wf.fetchers _ (List.mem_of_getElem? hf))⟩
      rw [step_start object id hf hs]
      exact .start object id hf hs
  | answer i answer =>
    cases hp : pool.fetches[i]? with
    | none =>
      have out : pool.OutOfTurn (.answer i answer) := by simp [OutOfTurn, waiting?, hp]
      simpa [step, hp] using idle out
    | some pooled =>
      obtain ⟨session, stage⟩ := pooled
      obtain ⟨scope, hs⟩ : ∃ scope, pool.sessions[session]? = some scope :=
        ⟨_, List.getElem?_eq_getElem (wf.fetches _ (List.mem_of_getElem? hp))⟩
      cases stage with
      | finished =>
        have out : pool.OutOfTurn (.answer i answer) := by simp [OutOfTurn, waiting?, hp]
        simpa [step, hp, hs] using idle out
      | waiting fetch =>
        rw [step_answer answer hp hs]
        exact .answer answer hp hs

def reached (actions : List Action) : FetcherPool := (run initial actions).1

def moments (actions : List Action) : List (Moment FetcherPool Action) :=
  history (fun pool action => (pool.step action).1) initial actions

theorem runs : Runs (fun pool action => (step pool action).1) run := ⟨fun _ => rfl, fun _ _ _ => rfl⟩

theorem reached_concat (actions : List Action) (action : Action) :
    reached (actions ++ [action]) = ((reached actions).step action).1 :=
  runs.fst_concat initial actions action

theorem moments_concat (actions : List Action) (action : Action) :
    moments (actions ++ [action]) = moments actions ++ [⟨reached actions, action⟩] :=
  runs.history_concat initial actions action

theorem moments_append (earlier later : List Action) :
    moments (earlier ++ later) =
      moments earlier ++ history (fun pool action => (pool.step action).1) (reached earlier) later :=
  runs.history_append initial earlier later

theorem mem_moments {actions : List Action} {m : Moment FetcherPool Action} :
    m ∈ moments actions ↔
      ∃ earlier later, actions = earlier ++ m.action :: later ∧ m.before = reached earlier :=
  runs.mem_history initial actions m

theorem wellFormed_reached (actions : List Action) : (reached actions).WellFormed := by
  induction actions using List.reverseRecOn with
  | nil =>
    constructor
    · intro session h
      simp only [reached, run, initial, List.mem_singleton] at h
      subst h
      decide
    · intro pooled h
      simp [reached, run, initial] at h
  | append_singleton actions action ih =>
    rw [reached_concat]
    have turn := turn_step ih action
    generalize (reached actions).step action = after at turn
    obtain ⟨pool, events⟩ := after
    cases turn with
    | create =>
      constructor
      · intro session h
        have h : session ∈ (reached actions).fetchers ∨ session = (reached actions).sessions.length :=
          by simpa using h
        rcases h with h | rfl
        · have := ih.fetchers session h
          simp only [List.length_append, List.length_singleton]
          omega
        · simp
      · intro pooled h
        have := ih.fetches pooled h
        simp only [List.length_append, List.length_singleton]
        omega
    | clone found =>
      refine ⟨?_, ih.fetches⟩
      intro session h
      rcases List.mem_append.mp h with h | h
      · exact ih.fetchers session h
      · rw [List.mem_singleton.mp h]
        exact ih.fetchers _ (List.mem_of_getElem? found)
    | start object id found current =>
      refine ⟨ih.fetchers, ?_⟩
      intro pooled h
      rcases List.mem_append.mp h with h | h
      · exact ih.fetches pooled h
      · rw [List.mem_singleton.mp h]
        exact ih.fetchers _ (List.mem_of_getElem? found)
    | answer answer found current =>
      constructor
      · simpa using ih.fetchers
      · intro pooled h
        rw [List.length_set]
        rcases List.mem_or_eq_of_mem_set h with h | rfl
        · exact ih.fetches pooled h
        · have hsession := ih.fetches _ (List.mem_of_getElem? found)
          exact hsession
    | idle out => exact ih

structure Entry where
  fetch : Nat
  session : Nat
  exchange : InfoExchange

def logged? (m : Moment FetcherPool Action) : Option Entry :=
  match m.action with
  | .answer i answer =>
    match m.before.fetches[i]? with
    | some ⟨session, .waiting fetch⟩ => some ⟨i, session, ⟨fetch, answer⟩⟩
    | _ => none
  | _ => none

def entries (actions : List Action) : List Entry := (moments actions).filterMap logged?

def exchanges (actions : List Action) (i : Nat) : List InfoExchange :=
  ((entries actions).filter (·.fetch = i)).map (·.exchange)

def first? (m : Moment FetcherPool Action) : Option InfoFetch :=
  match m.action with
  | .start fetcher object id => (m.before.scope? fetcher).map fun scope => ⟨object, id, scope⟩
  | _ => none

/-- Every fetch as it started, with the scope that its session had then. -/
def started (actions : List Action) : List InfoFetch := (moments actions).filterMap first?

def subject? (m : Moment FetcherPool Action) : Option Nat :=
  match m.action with
  | .start _ _ _ => some m.before.fetches.length
  | .answer i _ => some i
  | _ => none

def calls (actions : List Action) (i : Nat) : List Call :=
  (moments actions).flatMap fun m =>
    if subject? m = some i then Event.calls (m.before.step m.action).2 else []

def session? (m : Moment FetcherPool Action) : Option Nat :=
  match m.action with
  | .start fetcher _ _ => m.before.fetchers[fetcher]?
  | .answer i _ => m.before.fetches[i]?.map (·.session)
  | _ => none

def reports (actions : List Action) (session : Nat) : List Report :=
  (moments actions).flatMap fun m =>
    if session? m = some session then (m.before.step m.action).2.filterMap Event.report? else []

theorem entries_concat (actions : List Action) (action : Action) :
    entries (actions ++ [action]) = entries actions ++ (logged? ⟨reached actions, action⟩).toList := by
  rw [entries, moments_concat, filterMap_concat, entries]

theorem started_concat (actions : List Action) (action : Action) :
    started (actions ++ [action]) = started actions ++ (first? ⟨reached actions, action⟩).toList := by
  rw [started, moments_concat, filterMap_concat, started]

theorem calls_concat (actions : List Action) (action : Action) (i : Nat) :
    calls (actions ++ [action]) i = calls actions i ++
      if subject? ⟨reached actions, action⟩ = some i then
        Event.calls ((reached actions).step action).2 else [] := by
  rw [calls, moments_concat, List.flatMap_append, List.flatMap_singleton]
  rfl

theorem reports_concat (actions : List Action) (action : Action) (session : Nat) :
    reports (actions ++ [action]) session = reports actions session ++
      if session? ⟨reached actions, action⟩ = some session then
        ((reached actions).step action).2.filterMap Event.report? else [] := by
  rw [reports, moments_concat, List.flatMap_append, List.flatMap_singleton]
  rfl

theorem exchanges_concat (actions : List Action) (action : Action) (i : Nat) :
    exchanges (actions ++ [action]) i = exchanges actions i ++
      ((logged? ⟨reached actions, action⟩).toList.filter (·.fetch = i)).map (·.exchange) := by
  rw [exchanges, entries_concat, List.filter_append, List.map_append]
  rfl

end FetcherPool
end MessageInspector
