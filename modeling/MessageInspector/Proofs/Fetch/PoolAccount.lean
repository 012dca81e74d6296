import MessageInspector.Proofs.Fetch.PoolHistory
/-!
# The account of a fetch

Fetches of a pool may overlap in any way. Each keeps to its own course all the same: what the history
of a run says of a fetch is what a fetch on its own does with the same answers.
-/
namespace MessageInspector
namespace FetcherPool
open InfoFetch

private theorem exchanges_of_quiet {actions : List Action} {action : Action}
    (quiet : logged? ⟨reached actions, action⟩ = none) (i : Nat) :
    exchanges (actions ++ [action]) i = exchanges actions i := by
  simp [exchanges_concat, quiet]

private theorem started_of_quiet {actions : List Action} {action : Action}
    (quiet : first? ⟨reached actions, action⟩ = none) :
    started (actions ++ [action]) = started actions := by
  simp [started_concat, quiet]

private theorem calls_of_quiet {actions : List Action} {action : Action}
    (quiet : Event.calls ((reached actions).step action).2 = []) (i : Nat) :
    calls (actions ++ [action]) i = calls actions i := by
  simp [calls_concat, quiet]

theorem logged_of_outOfTurn {pool : FetcherPool} {action : Action}
    (out : pool.OutOfTurn action) : logged? ⟨pool, action⟩ = none := by
  cases action with
  | answer i answer =>
    simp only [OutOfTurn, waiting?] at out
    simp only [logged?]
    split <;> simp_all
  | _ => rfl

private theorem first_of_outOfTurn {pool : FetcherPool} {action : Action}
    (out : pool.OutOfTurn action) : first? ⟨pool, action⟩ = none := by
  cases action with
  | start fetcher object id =>
    have hf : pool.fetchers[fetcher]? = none := out
    simp [first?, scope?, hf]
  | _ => rfl

/-- The history of a run accounts for each fetch: its exchanges are the course of the fetch so far,
and its calls are the answered ones followed by the one under way. -/
structure Accounted (actions : List Action) : Prop where
  started : (started actions).length = (reached actions).fetches.length
  absent : ∀ i, (reached actions).fetches.length ≤ i → exchanges actions i = [] ∧ calls actions i = []
  course : ∀ i first pooled, (FetcherPool.started actions)[i]? = some first →
    (reached actions).fetches[i]? = some pooled →
      Course first (exchanges actions i) pooled.stage.next
  calls : ∀ i pooled, (reached actions).fetches[i]? = some pooled →
    calls actions i = (exchanges actions i).map (·.fetch.call) ++ pooled.stage.next.pending

private theorem Accounted.of_quiet {actions : List Action} {action : Action}
    (h : Accounted actions)
    (fetches : (reached (actions ++ [action])).fetches = (reached actions).fetches)
    (logged : logged? ⟨reached actions, action⟩ = none)
    (first : first? ⟨reached actions, action⟩ = none)
    (called : Event.calls ((reached actions).step action).2 = []) :
    Accounted (actions ++ [action]) := by
  constructor
  · rw [started_of_quiet first, fetches, h.started]
  · intro i hi
    rw [fetches] at hi
    rw [exchanges_of_quiet logged, calls_of_quiet called]
    exact h.absent i hi
  · intro i begun pooled hb hp
    rw [started_of_quiet first] at hb
    rw [fetches] at hp
    rw [exchanges_of_quiet logged]
    exact h.course i begun pooled hb hp
  · intro i pooled hp
    rw [fetches] at hp
    rw [exchanges_of_quiet logged, calls_of_quiet called]
    exact h.calls i pooled hp

private theorem Accounted.start {actions : List Action} {fetcher session : Nat} {scope : FetchScope}
    (h : Accounted actions) (object : ManagedObject) (id : MessageId)
    (found : (reached actions).fetchers[fetcher]? = some session)
    (current : (reached actions).sessions[session]? = some scope) :
    Accounted (actions ++ [.start fetcher object id]) := by
  let first : InfoFetch := ⟨object, id, scope⟩
  have hstep := step_start object id found current
  have hfirst : first? ⟨reached actions, .start fetcher object id⟩ = some first := by
    simp [first?, scope?, found, current, first]
  have hstarted : FetcherPool.started (actions ++ [.start fetcher object id]) =
      FetcherPool.started actions ++ [first] := by
    rw [started_concat, hfirst]
    rfl
  have hfetches : (reached (actions ++ [.start fetcher object id])).fetches =
      (reached actions).fetches ++ [⟨session, .waiting first⟩] := by
    rw [reached_concat, hstep]
  have hexchanges (i : Nat) : exchanges (actions ++ [.start fetcher object id]) i =
      exchanges actions i := exchanges_of_quiet rfl i
  have hcalls (i : Nat) : FetcherPool.calls (actions ++ [.start fetcher object id]) i =
      FetcherPool.calls actions i ++
        if (reached actions).fetches.length = i then [first.call] else [] := by
    rw [calls_concat, hstep, calls_events]
    simp [subject?, first]
  have hold {β : Type} {xs : List β} {y : β} {i : Nat} (hy : xs[i]? = some y) : i < xs.length :=
    (List.getElem?_eq_some_iff.mp hy).1
  have hnew := h.absent _ (Nat.le_refl (reached actions).fetches.length)
  constructor
  · rw [hstarted, hfetches, List.length_append, List.length_append, h.started]
    rfl
  · intro i hi
    rw [hfetches, List.length_append, List.length_singleton] at hi
    have hne : (reached actions).fetches.length ≠ i := by omega
    rw [hexchanges, hcalls, if_neg hne, List.append_nil]
    exact h.absent i (by omega)
  · intro i begun pooled hb hp
    rw [hexchanges]
    rw [hstarted, getElem?_concat_eq_some, h.started] at hb
    rw [hfetches, getElem?_concat_eq_some] at hp
    rcases hb with hb | ⟨rfl, rfl⟩ <;> rcases hp with hp | ⟨hi, rfl⟩
    · exact h.course i begun pooled hb hp
    · have := hold hb
      rw [h.started] at this
      omega
    · have := hold hp
      omega
    · rw [hnew.1]
      exact .asked
  · intro i pooled hp
    rw [hexchanges, hcalls]
    rw [hfetches, getElem?_concat_eq_some] at hp
    rcases hp with hp | ⟨rfl, rfl⟩
    · have hi := hold hp
      have hne : (reached actions).fetches.length ≠ i := by omega
      rw [if_neg hne, List.append_nil]
      exact h.calls i pooled hp
    · rw [hnew.1, hnew.2, if_pos rfl]
      rfl

private theorem Accounted.answer {actions : List Action} {n session : Nat} {fetch : InfoFetch}
    {scope : FetchScope} (h : Accounted actions) (answer : Except ApiError MessageInfo)
    (found : (reached actions).fetches[n]? = some ⟨session, .waiting fetch⟩)
    (current : (reached actions).sessions[session]? = some scope) :
    Accounted (actions ++ [.answer n answer]) := by
  let next := (fetch.answer scope answer).next
  have hstep := step_answer answer found current
  have hlogged : logged? ⟨reached actions, .answer n answer⟩ =
      some ⟨n, session, ⟨fetch, answer⟩⟩ := by
    simp [logged?, found]
  have hfetches : (reached (actions ++ [.answer n answer])).fetches =
      (reached actions).fetches.set n ⟨session, .of next⟩ := by
    rw [reached_concat, hstep]
  have hstarted : FetcherPool.started (actions ++ [.answer n answer]) =
      FetcherPool.started actions := started_of_quiet rfl
  have hexchanges (i : Nat) : exchanges (actions ++ [.answer n answer]) i =
      exchanges actions i ++ if n = i then [⟨fetch, answer⟩] else [] := by
    rw [exchanges_concat, hlogged]
    by_cases hi : n = i <;> simp [hi]
  have hcalls (i : Nat) : FetcherPool.calls (actions ++ [.answer n answer]) i =
      FetcherPool.calls actions i ++ if n = i then next.pending else [] := by
    rw [calls_concat, hstep, InfoFetch.calls_answer]
    simp [subject?, next]
  have hn := (List.getElem?_eq_some_iff.mp found).1
  constructor
  · rw [hstarted, hfetches, List.length_set, h.started]
  · intro i hi
    rw [hfetches, List.length_set] at hi
    have hne : n ≠ i := by omega
    rw [hexchanges, hcalls, if_neg hne, if_neg hne, List.append_nil, List.append_nil]
    exact h.absent i hi
  · intro i first pooled hb hp
    rw [hstarted] at hb
    rw [hfetches] at hp
    rw [hexchanges]
    by_cases hi : n = i
    · subst hi
      rw [List.getElem?_set_self hn, Option.some.injEq] at hp
      subst hp
      rw [if_pos rfl, FetchStage.next_of]
      exact (h.course n first _ hb found).answer scope answer
    · rw [List.getElem?_set_ne hi] at hp
      rw [if_neg hi, List.append_nil]
      exact h.course i first pooled hb hp
  · intro i pooled hp
    rw [hfetches] at hp
    rw [hexchanges, hcalls]
    by_cases hi : n = i
    · subst hi
      rw [List.getElem?_set_self hn, Option.some.injEq] at hp
      subst hp
      rw [if_pos rfl, if_pos rfl, FetchStage.next_of, h.calls n _ found, List.map_append]
      rfl
    · rw [List.getElem?_set_ne hi] at hp
      rw [if_neg hi, if_neg hi, List.append_nil, List.append_nil]
      exact h.calls i pooled hp

theorem accounted (actions : List Action) : Accounted actions := by
  induction actions using List.reverseRecOn with
  | nil =>
    constructor
    · rfl
    · intro i _
      exact ⟨rfl, rfl⟩
    · intro i first pooled hb
      simp [FetcherPool.started, moments, history] at hb
    · intro i pooled hp
      simp [reached, run, initial] at hp
  | append_singleton actions action ih =>
    have hquiet := @Accounted.of_quiet actions action ih
    rw [reached_concat] at hquiet
    have turn := turn_step (wellFormed_reached actions) action
    generalize hafter : (reached actions).step action = after at turn hquiet
    obtain ⟨pool, events⟩ := after
    cases turn with
    | create => exact hquiet rfl rfl rfl rfl
    | clone found => exact hquiet rfl rfl rfl rfl
    | start object id found current => exact ih.start object id found current
    | answer answer found current => exact ih.answer answer found current
    | idle out => exact hquiet rfl (logged_of_outOfTurn out) (first_of_outOfTurn out) rfl

end FetcherPool
end MessageInspector
