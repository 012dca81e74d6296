import MessageInspector.Proofs.Fetch.PoolAccount
/-!
# Header downgrade

A session starts with headers and does without them from the first refusal on. However its fetches
overlap, each makes one call, and a second one only if the first was refused because of its headers.
-/
namespace MessageInspector
namespace FetcherPool
open InfoFetch

/-- A session is without headers after a step if it was before, or if the step answers a call of the
session with a refusal. -/
theorem excluded_step {pool : FetcherPool} (wf : pool.WellFormed) (action : Action) (session : Nat) :
    (pool.step action).1.sessions[session]? = some .headersExcluded ↔
      pool.sessions[session]? = some .headersExcluded ∨
        ∃ entry, logged? ⟨pool, action⟩ = some entry ∧ entry.session = session ∧
          entry.exchange.Refused := by
  have turn := turn_step wf action
  generalize pool.step action = after at turn
  obtain ⟨after, events⟩ := after
  cases turn with
  | create => simp [logged?, getElem?_concat_eq_some]
  | clone found => simp [logged?]
  | start object id found current => simp [logged?]
  | @answer i own fetch scope answer found current =>
    have hlogged : logged? ⟨pool, .answer i answer⟩ = some ⟨i, own, ⟨fetch, answer⟩⟩ := by
      simp [logged?, found]
    have hown := (List.getElem?_eq_some_iff.mp current).1
    simp only [hlogged, Option.some.injEq, exists_eq_left']
    by_cases hs : own = session
    · subst hs
      rw [List.getElem?_set_self hown, current]
      by_cases hr : InfoExchange.Refused ⟨fetch, answer⟩
      · simp [answer_of_refused hr, hr]
      · simp [answer_of_not_refused hr, hr]
    · rw [List.getElem?_set_ne hs]
      simp [hs]
  | idle out => simp [logged_of_outOfTurn out]

theorem excluded_iff_entries (actions : List Action) (session : Nat) :
    (reached actions).sessions[session]? = some .headersExcluded ↔
      ∃ entry ∈ entries actions, entry.session = session ∧ entry.exchange.Refused := by
  induction actions using List.reverseRecOn with
  | nil =>
    have hentries : entries [] = [] := rfl
    have hsessions : (reached []).sessions = [.headersIncluded] := rfl
    cases session <;> simp [hentries, hsessions]
  | append_singleton actions action ih =>
    rw [reached_concat, excluded_step (wellFormed_reached actions), entries_concat, ih]
    simp only [List.mem_append, Option.mem_toList, or_and_right, exists_or]

theorem excluded_of_earlier (earlier later : List Action) (session : Nat)
    (h : (reached earlier).sessions[session]? = some .headersExcluded) :
    (reached (earlier ++ later)).sessions[session]? = some .headersExcluded := by
  rw [excluded_iff_entries] at h ⊢
  obtain ⟨entry, hmem, hentry⟩ := h
  refine ⟨entry, ?_, hentry⟩
  rw [entries, moments_append, List.filterMap_append]
  exact List.mem_append_left _ hmem

theorem fetch_of_earlier (earlier later : List Action) {i session : Nat} {stage : FetchStage}
    (h : (reached earlier).fetches[i]? = some ⟨session, stage⟩) :
    ∃ stage, (reached (earlier ++ later)).fetches[i]? = some ⟨session, stage⟩ := by
  induction later using List.reverseRecOn with
  | nil => exact ⟨stage, by rw [List.append_nil, h]⟩
  | append_singleton later action ih =>
    obtain ⟨stage, ih⟩ := ih
    rw [← List.append_assoc, reached_concat]
    have turn := turn_step (wellFormed_reached (earlier ++ later)) action
    generalize (reached (earlier ++ later)).step action = after at turn
    obtain ⟨pool, events⟩ := after
    cases turn with
    | create => exact ⟨stage, ih⟩
    | clone found => exact ⟨stage, ih⟩
    | start object id found current =>
      exact ⟨stage, getElem?_concat_eq_some.mpr (.inl ih)⟩
    | @answer n own fetch scope answer found current =>
      by_cases hn : n = i
      · subst hn
        rw [ih, Option.some.injEq, PooledFetch.mk.injEq] at found
        obtain ⟨rfl, rfl⟩ := found
        exact ⟨_, List.getElem?_set_self (List.getElem?_eq_some_iff.mp ih).1⟩
      · exact ⟨stage, by rw [List.getElem?_set_ne hn, ih]⟩
    | idle out => exact ⟨stage, ih⟩

theorem fetch_of_mem_entries {actions : List Action} {entry : Entry} (h : entry ∈ entries actions) :
    ∃ stage, (reached actions).fetches[entry.fetch]? = some ⟨entry.session, stage⟩ := by
  obtain ⟨m, hm, hentry⟩ := List.mem_filterMap.mp h
  obtain ⟨earlier, later, rfl, hbefore⟩ := mem_moments.mp hm
  obtain ⟨before, action⟩ := m
  subst hbefore
  cases action with
  | answer i answer =>
    simp only [logged?] at hentry
    split at hentry
    · rename_i session fetch hfetch
      obtain rfl := Option.some.inj hentry
      exact fetch_of_earlier earlier _ hfetch
    · cases hentry
  | _ => cases hentry

theorem excluded_iff_refused (actions : List Action) (session : Nat) :
    (reached actions).sessions[session]? = some .headersExcluded ↔
      ∃ i stage, (reached actions).fetches[i]? = some ⟨session, stage⟩ ∧
        ∃ x ∈ exchanges actions i, x.Refused := by
  rw [excluded_iff_entries]
  constructor
  · rintro ⟨entry, hmem, rfl, hr⟩
    obtain ⟨stage, hstage⟩ := fetch_of_mem_entries hmem
    refine ⟨entry.fetch, stage, hstage, entry.exchange, ?_, hr⟩
    exact List.mem_map.mpr ⟨entry, List.mem_filter.mpr ⟨hmem, by simp⟩, rfl⟩
  · rintro ⟨i, stage, hstage, x, hx, hr⟩
    obtain ⟨entry, hentry, rfl⟩ := List.mem_map.mp hx
    obtain ⟨hmem, hi⟩ := List.mem_filter.mp hentry
    obtain ⟨stage', hstage'⟩ := fetch_of_mem_entries hmem
    rw [of_decide_eq_true hi, hstage, Option.some.injEq, PooledFetch.mk.injEq] at hstage'
    exact ⟨entry, hmem, hstage'.1.symm, hr⟩

def tellsRefusal : Report → Bool
  | .headersRefused _ => true
  | _ => false

def downgrades (session : Nat) (m : Moment FetcherPool Action) : Bool :=
  m.before.sessions[session]? = some .headersIncluded ∧
    (m.before.step m.action).1.sessions[session]? = some .headersExcluded

theorem countP_reports_answer (fetch : InfoFetch) (scope : FetchScope)
    (answer : Except ApiError MessageInfo) :
    ((fetch.answer scope answer).events.filterMap Event.report?).countP tellsRefusal =
      if scope = .headersIncluded ∧ (fetch.answer scope answer).session = .headersExcluded then 1
      else 0 := by
  by_cases hr : InfoExchange.Refused ⟨fetch, answer⟩
  · rw [answer_of_refused hr]
    cases scope <;> rfl
  · rw [answer_of_not_refused hr]
    cases scope <;> rfl

private theorem not_both {pool : FetcherPool} {session : Nat} :
    ¬ (pool.sessions[session]? = some .headersIncluded ∧
      pool.sessions[session]? = some .headersExcluded) := by
  rintro ⟨h, h'⟩
  rw [h] at h'
  cases h'

private theorem countP_reports_step {pool : FetcherPool} (wf : pool.WellFormed) (action : Action)
    (session : Nat) :
    (if session? ⟨pool, action⟩ = some session then
      (pool.step action).2.filterMap Event.report? else []).countP tellsRefusal =
      if downgrades session ⟨pool, action⟩ then 1 else 0 := by
  simp only [downgrades, decide_eq_true_eq]
  have turn := turn_step wf action
  generalize pool.step action = after at turn
  obtain ⟨after, events⟩ := after
  cases turn with
  | create =>
    have hnew : ¬ (pool.sessions[session]? = some .headersIncluded ∧
        (pool.sessions ++ [.headersIncluded])[session]? = some .headersExcluded) := by
      rintro ⟨h, h'⟩
      rcases getElem?_concat_eq_some.mp h' with h' | ⟨-, h'⟩
      · exact not_both ⟨h, h'⟩
      · cases h'
    rw [if_neg hnew]
    rfl
  | clone found =>
    rw [if_neg not_both]
    rfl
  | start object id found current =>
    rw [if_neg not_both]
    split <;> rfl
  | @answer n own fetch scope answer found current =>
    have hown := (List.getElem?_eq_some_iff.mp current).1
    have hsession : session? ⟨pool, .answer n answer⟩ = some own := by
      simp [session?, found]
    rw [hsession]
    by_cases hs : own = session
    · subst hs
      rw [if_pos rfl, List.getElem?_set_self hown, current, countP_reports_answer]
      simp only [Option.some.injEq]
    · have hne : ¬ some own = some session := fun h => hs (Option.some.inj h)
      rw [List.getElem?_set_ne hs, if_neg not_both, if_neg hne]
      rfl
  | idle out =>
    rw [if_neg not_both]
    split <;> rfl

theorem countP_reports (actions : List Action) (session : Nat) :
    (reports actions session).countP tellsRefusal = (moments actions).countP (downgrades session) := by
  induction actions using List.reverseRecOn with
  | nil => rfl
  | append_singleton actions action ih =>
    rw [reports_concat, moments_concat, List.countP_append, List.countP_append, ih,
      List.countP_singleton, countP_reports_step (wellFormed_reached actions)]

private theorem downgrades_iff {pool : FetcherPool} (wf : pool.WellFormed) (action : Action)
    (session : Nat) :
    downgrades session ⟨pool, action⟩ = true ↔
      pool.sessions[session]? ≠ some .headersExcluded ∧
        (pool.step action).1.sessions[session]? = some .headersExcluded := by
  rw [downgrades, decide_eq_true_eq]
  constructor
  · rintro ⟨h, h'⟩
    exact ⟨fun he => not_both ⟨h, he⟩, h'⟩
  · rintro ⟨h, h'⟩
    refine ⟨?_, h'⟩
    obtain h' | ⟨entry, hentry, rfl, -⟩ := (excluded_step wf action session).mp h'
    · exact absurd h' h
    · obtain ⟨scope, hscope⟩ : ∃ scope, pool.sessions[entry.session]? = some scope := by
        cases action with
        | answer i answer =>
          simp only [logged?] at hentry
          split at hentry
          · rename_i own fetch hfetch
            obtain rfl := Option.some.inj hentry
            exact ⟨_, List.getElem?_eq_getElem (wf.fetches _ (List.mem_of_getElem? hfetch))⟩
          · cases hentry
        | _ => cases hentry
      cases scope with
      | headersIncluded => exact hscope
      | headersExcluded => exact absurd hscope h

/-- A session that does without headers has lost them in one step; any other has lost them in none. -/
theorem countP_downgrades (actions : List Action) (session : Nat) :
    (moments actions).countP (downgrades session) =
      if (reached actions).sessions[session]? = some .headersExcluded then 1 else 0 := by
  induction actions using List.reverseRecOn with
  | nil =>
    have hsessions : (reached []).sessions = [.headersIncluded] := rfl
    cases session <;> simp [moments, history, hsessions]
  | append_singleton actions action ih =>
    have wf := wellFormed_reached actions
    have kept := (excluded_step wf action session).mpr ∘ Or.inl
    rw [moments_concat, List.countP_append, ih, List.countP_singleton, reached_concat]
    simp only [downgrades_iff wf]
    by_cases h : (reached actions).sessions[session]? = some .headersExcluded
    · rw [if_pos h, if_pos (kept h), if_neg (fun hd => hd.1 h)]
    · by_cases h' : ((reached actions).step action).1.sessions[session]? = some .headersExcluded
      · rw [if_neg h, if_pos h', if_pos ⟨h, h'⟩]
      · rw [if_neg h, if_neg h', if_neg (fun hd => h' hd.2)]

theorem fetcher_of_earlier (earlier later : List Action) {fetcher session : Nat}
    (h : (reached earlier).fetchers[fetcher]? = some session) :
    (reached (earlier ++ later)).fetchers[fetcher]? = some session := by
  induction later using List.reverseRecOn with
  | nil => rw [List.append_nil, h]
  | append_singleton later action ih =>
    rw [← List.append_assoc, reached_concat]
    have turn := turn_step (wellFormed_reached (earlier ++ later)) action
    generalize (reached (earlier ++ later)).step action = after at turn
    obtain ⟨pool, events⟩ := after
    cases turn with
    | create => exact getElem?_concat_eq_some.mpr (.inl ih)
    | clone found => exact getElem?_concat_eq_some.mpr (.inl ih)
    | start object id found current => exact ih
    | answer answer found current => exact ih
    | idle out => exact ih

theorem scope_of_answer_elsewhere {pool : FetcherPool} (wf : pool.WellFormed)
    {fetcher own i session : Nat} {stage : FetchStage}
    (fetcherFound : pool.fetchers[fetcher]? = some own)
    (fetchFound : pool.fetches[i]? = some ⟨session, stage⟩) (hne : session ≠ own)
    (answer : Except ApiError MessageInfo) :
    (pool.step (.answer i answer)).1.scope? fetcher = pool.scope? fetcher := by
  have turn := turn_step wf (.answer i answer)
  generalize pool.step (.answer i answer) = after at turn
  obtain ⟨after, events⟩ := after
  cases turn with
  | @answer i session' fetch scope answer found current =>
    rw [fetchFound, Option.some.injEq, PooledFetch.mk.injEq] at found
    obtain ⟨rfl, -⟩ := found
    simp [scope?, fetcherFound, List.getElem?_set_ne hne]
  | idle out => rfl

theorem started_of_start {earlier : List Action} {fetcher session : Nat}
    (found : (reached earlier).fetchers[fetcher]? = some session) (object : ManagedObject)
    (id : MessageId) (later : List Action) :
    ∃ scope stage, (reached earlier).sessions[session]? = some scope ∧
      (started (earlier ++ .start fetcher object id :: later))[(reached earlier).fetches.length]? =
        some ⟨object, id, scope⟩ ∧
      (reached (earlier ++ .start fetcher object id :: later)).fetches[
        (reached earlier).fetches.length]? = some ⟨session, stage⟩ := by
  obtain ⟨scope, current⟩ : ∃ scope, (reached earlier).sessions[session]? = some scope :=
    ⟨_, List.getElem?_eq_getElem ((wellFormed_reached earlier).fetchers _
      (List.mem_of_getElem? found))⟩
  have hnow : (reached (earlier ++ [.start fetcher object id])).fetches[
      (reached earlier).fetches.length]? = some ⟨session, .waiting ⟨object, id, scope⟩⟩ := by
    rw [reached_concat, step_start object id found current]
    exact List.getElem?_concat_length
  obtain ⟨stage, hstage⟩ := fetch_of_earlier _ later hnow
  rw [List.append_assoc, List.singleton_append] at hstage
  refine ⟨scope, stage, current, ?_, hstage⟩
  have hfirst : first? ⟨reached earlier, .start fetcher object id⟩ = some ⟨object, id, scope⟩ := by
    simp [first?, scope?, found, current]
  rw [started, moments_append, List.filterMap_append, history, List.filterMap_cons, hfirst]
  change (started earlier ++ _)[_]? = _
  rw [← (accounted earlier).started]
  simp

/-- What a run of any number of overlapping fetches owes to each fetch and to each session. -/
structure DowngradePolicy (actions : List Action) : Prop where
  /-- Whoever has a fetcher can start a fetch, and it starts with the scope of the session. -/
  starts : ∀ earlier later fetcher session object id,
    actions = earlier ++ .start fetcher object id :: later →
    (reached earlier).fetchers[fetcher]? = some session →
      ∃ scope stage, (reached earlier).sessions[session]? = some scope ∧
        (started actions)[(reached earlier).fetches.length]? = some ⟨object, id, scope⟩ ∧
        (reached actions).fetches[(reached earlier).fetches.length]? = some ⟨session, stage⟩
  /-- A fetch makes one call, or two if the first asked for headers and was answered with 403. The
  second never asks for headers. -/
  atMostTwoCalls : ∀ i first, (started actions)[i]? = some first →
    calls actions i = [.info first.object ⟨first.id, first.scope.includesHeaders⟩] ∧
        (∀ x ∈ exchanges actions i,
          ¬ (x.fetch.scope = .headersIncluded ∧ x.answer = .error (.authorization 403))) ∨
      calls actions i = [.info first.object ⟨first.id, true⟩, .info first.object ⟨first.id, false⟩] ∧
        first.scope = .headersIncluded ∧
        (exchanges actions i).head? = some ⟨first, .error (.authorization 403)⟩
  /-- A fetch has ended as soon as all its calls are answered, with the answer to the last of them
  and the scope of that call. -/
  returns : ∀ i session stage answer, (reached actions).fetches[i]? = some ⟨session, stage⟩ →
    (stage = .finished answer ↔
      (exchanges actions i).map (·.fetch.call) = calls actions i ∧
        ∃ x, (exchanges actions i).getLast? = some x ∧ answer = x.answer.map (⟨·, x.fetch.scope⟩))
  /-- A fetch that starts after the downgrade makes one call, without headers, whatever comes back. -/
  afterDowngrade : ∀ i first, (started actions)[i]? = some first → first.scope = .headersExcluded →
    calls actions i = [.info first.object ⟨first.id, false⟩]
  /-- Any other error ends the fetch at once and changes nothing else. -/
  otherErrors : ∀ i session fetch e, (reached actions).fetches[i]? = some ⟨session, .waiting fetch⟩ →
    ¬ (fetch.scope = .headersIncluded ∧ e = .authorization 403) →
      (reached actions).step (.answer i (.error e)) =
        ({ reached actions with
            fetches := (reached actions).fetches.set i ⟨session, .finished (.error e)⟩ }, [])
  /-- The scope of a session never goes back. -/
  oneWay : ∀ earlier later (session : Nat), actions = earlier ++ later →
    (reached earlier).sessions[session]? = some .headersExcluded →
      (reached actions).sessions[session]? = some .headersExcluded
  /-- A session is without headers exactly when some call of it that asked for headers was answered
  with 403. -/
  excluded : ∀ fetcher session, (reached actions).fetchers[fetcher]? = some session →
    ((reached actions).scope? fetcher = some .headersExcluded ↔
      ∃ i stage, (reached actions).fetches[i]? = some ⟨session, stage⟩ ∧ ∃ x ∈ exchanges actions i,
        x.fetch.scope = .headersIncluded ∧ x.answer = .error (.authorization 403))
  /-- A session loses its headers once at most, and this is reported once. -/
  once : ∀ session,
    (moments actions).countP (downgrades session) =
        (if (reached actions).sessions[session]? = some .headersExcluded then 1 else 0) ∧
      (reports actions session).countP tellsRefusal = (moments actions).countP (downgrades session)
  /-- A fetcher made on its own has a session of its own, which no answer to another fetcher's fetch
  changes. -/
  separate : ∀ earlier later, actions = earlier ++ .create :: later →
    (reached actions).fetchers[(reached earlier).fetchers.length]? =
        some (reached earlier).sessions.length ∧
      (∀ session ∈ (reached earlier).fetchers, session ≠ (reached earlier).sessions.length) ∧
      ∀ i session stage answer, (reached actions).fetches[i]? = some ⟨session, stage⟩ →
        session ≠ (reached earlier).sessions.length →
          ((reached actions).step (.answer i answer)).1.scope? (reached earlier).fetchers.length =
            (reached actions).scope? (reached earlier).fetchers.length

private theorem pooled_of_started {actions : List Action} {i : Nat} {first : InfoFetch}
    (h : (started actions)[i]? = some first) :
    ∃ pooled, (reached actions).fetches[i]? = some pooled := by
  have hi := (List.getElem?_eq_some_iff.mp h).1
  rw [(accounted actions).started] at hi
  exact ⟨_, List.getElem?_eq_getElem hi⟩

private theorem started_of_pooled {actions : List Action} {i : Nat} {pooled : PooledFetch}
    (h : (reached actions).fetches[i]? = some pooled) :
    ∃ first, (started actions)[i]? = some first := by
  have hi := (List.getElem?_eq_some_iff.mp h).1
  rw [← (accounted actions).started] at hi
  exact ⟨_, List.getElem?_eq_getElem hi⟩

private theorem calls_of_started {actions : List Action} {i : Nat} {first : InfoFetch}
    (h : (started actions)[i]? = some first) :
    calls actions i = [first.call] ∧ (∀ x ∈ exchanges actions i, ¬ x.Refused) ∨
      calls actions i = [first.call, first.withoutHeaders.call] ∧
        ∃ x, (exchanges actions i).head? = some x ∧ x.fetch = first ∧ x.Refused := by
  obtain ⟨pooled, hp⟩ := pooled_of_started h
  have hcourse := (accounted actions).course i first pooled h hp
  rw [(accounted actions).calls i pooled hp]
  generalize exchanges actions i = xs at hcourse
  generalize pooled.stage.next = next at hcourse
  cases hcourse with
  | asked => exact .inl ⟨rfl, by simp⟩
  | answered final => exact .inl ⟨rfl, by simpa using final⟩
  | refused refused => exact .inr ⟨rfl, _, rfl, rfl, refused⟩
  | retried refused => exact .inr ⟨rfl, _, rfl, rfl, refused⟩

private theorem returned_iff {actions : List Action} {i session : Nat} {stage : FetchStage}
    (h : (reached actions).fetches[i]? = some ⟨session, stage⟩) (answer : Except ApiError FetchedInfo) :
    stage = .finished answer ↔
      (exchanges actions i).map (·.fetch.call) = calls actions i ∧
        ∃ x, (exchanges actions i).getLast? = some x ∧ answer = x.result := by
  obtain ⟨first, hfirst⟩ := started_of_pooled h
  have hcourse := (accounted actions).course i first _ hfirst h
  rw [(accounted actions).calls i _ h]
  generalize exchanges actions i = xs at hcourse
  cases stage with
  | waiting fetch => simp [FetchStage.next, InfoFetchNext.pending]
  | finished final =>
    simp only [FetchStage.next] at hcourse
    cases hcourse <;>
      simp [FetchStage.next, InfoFetchNext.pending, eq_comm]

theorem run_keepsDowngradePolicy (actions : List Action) : DowngradePolicy actions where
  starts := by
    rintro earlier later fetcher session object id rfl found
    exact started_of_start found object id later
  atMostTwoCalls := by
    intro i first h
    rcases calls_of_started h with ⟨hcalls, hr⟩ | ⟨hcalls, ⟨fetch, answer⟩, hhead, rfl, hscope, hanswer⟩
    · exact .inl ⟨hcalls, hr⟩
    · simp only at hscope hanswer
      subst hanswer
      refine .inr ⟨?_, hscope, hhead⟩
      rw [hcalls, call, call, hscope]
      rfl
  returns := fun i session stage answer h => returned_iff h answer
  afterDowngrade := by
    intro i first h hscope
    rcases calls_of_started h with ⟨hcalls, -⟩ | ⟨-, x, -, rfl, hr, -⟩
    · rw [hcalls, call, hscope]
      rfl
    · rw [hscope] at hr
      cases hr
  otherErrors := by
    intro i session fetch e h hr
    obtain ⟨scope, current⟩ : ∃ scope, (reached actions).sessions[session]? = some scope :=
      ⟨_, List.getElem?_eq_getElem ((wellFormed_reached actions).fetches _ (List.mem_of_getElem? h))⟩
    have hfinal : ¬ InfoExchange.Refused ⟨fetch, .error e⟩ := by
      simpa [InfoExchange.Refused] using hr
    have hsame : (reached actions).sessions.set session scope = (reached actions).sessions := by
      obtain ⟨hlt, rfl⟩ := List.getElem?_eq_some_iff.mp current
      exact List.set_getElem_self hlt
    rw [step_answer (.error e) h current, answer_of_not_refused hfinal, hsame]
    rfl
  oneWay := by
    rintro earlier later session rfl h
    exact excluded_of_earlier earlier later session h
  excluded := by
    intro fetcher session found
    have hscope : (reached actions).scope? fetcher = (reached actions).sessions[session]? := by
      simp [scope?, found]
    rw [hscope]
    exact excluded_iff_refused actions session
  once := fun session => ⟨countP_downgrades actions session, countP_reports actions session⟩
  separate := by
    rintro earlier later rfl
    have wf := wellFormed_reached earlier
    have hnow : (reached (earlier ++ [.create])).fetchers =
        (reached earlier).fetchers ++ [(reached earlier).sessions.length] := by
      rw [reached_concat]
      rfl
    have hown : (reached (earlier ++ .create :: later)).fetchers[(reached earlier).fetchers.length]? =
        some (reached earlier).sessions.length := by
      rw [← List.singleton_append, ← List.append_assoc]
      apply fetcher_of_earlier
      rw [hnow]
      exact List.getElem?_concat_length
    refine ⟨hown, ?_, ?_⟩
    · intro session hmem
      have := wf.fetchers session hmem
      omega
    · intro i session stage answer h hne
      exact scope_of_answer_elsewhere (wellFormed_reached _) hown h hne answer

end FetcherPool
end MessageInspector
