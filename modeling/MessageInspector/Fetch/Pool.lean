import MessageInspector.Fetch.Info
/-!
# Fetchers and their sessions

A fetcher belongs to a session, which it shares with its clones and with no other fetcher. Any
number of fetches may be under way at once, and answers may come in any order.
-/
namespace MessageInspector

inductive FetchStage
  | waiting (fetch : InfoFetch)
  | finished (answer : Except ApiError FetchedInfo)

structure PooledFetch where
  session : Nat
  stage : FetchStage

/-- The scope of each session, the session of each fetcher, and the fetches in the order in which
they started. -/
structure FetcherPool where
  sessions : List FetchScope
  fetchers : List Nat
  fetches : List PooledFetch

namespace FetcherPool

/-- One fetcher with a session of its own. -/
def initial : FetcherPool := ⟨[.headersIncluded], [0], []⟩

inductive Action
  /-- Make a fetcher with a session of its own. -/
  | create
  /-- Make a fetcher that shares a session. -/
  | clone (fetcher : Nat)
  | start (fetcher : Nat) (object : ManagedObject) (id : MessageId)
  /-- Answer the call of a fetch. -/
  | answer (fetch : Nat) (answer : Except ApiError MessageInfo)

def scope? (pool : FetcherPool) (fetcher : Nat) : Option FetchScope := do
  pool.sessions[← pool.fetchers[fetcher]?]?

/-- One action with what it causes. An action that names nothing present changes nothing. -/
def step (pool : FetcherPool) : Action → FetcherPool × List Event
  | .create =>
    ({ pool with
        sessions := pool.sessions ++ [.headersIncluded]
        fetchers := pool.fetchers ++ [pool.sessions.length] }, [])
  | .clone fetcher =>
    match pool.fetchers[fetcher]? with
    | some session => ({ pool with fetchers := pool.fetchers ++ [session] }, [])
    | none => (pool, [])
  | .start fetcher object id =>
    match pool.fetchers[fetcher]? with
    | none => (pool, [])
    | some session =>
      match pool.sessions[session]? with
      | none => (pool, [])
      | some scope =>
        let fetch : InfoFetch := ⟨object, id, scope⟩
        ({ pool with fetches := pool.fetches ++ [⟨session, .waiting fetch⟩] }, fetch.events)
  | .answer i answer =>
    match pool.fetches[i]? with
    | none => (pool, [])
    | some pooled =>
      match pooled.stage, pool.sessions[pooled.session]? with
      | .waiting fetch, some scope =>
        let after := fetch.answer scope answer
        let stage :=
          match after.next with
          | .again fetch => .waiting fetch
          | .done answer => .finished answer
        ({ pool with
            sessions := pool.sessions.set pooled.session after.session
            fetches := pool.fetches.set i { pooled with stage := stage } }, after.events)
      | _, _ => (pool, [])

def run (pool : FetcherPool) : List Action → FetcherPool × List Event
  | [] => (pool, [])
  | action :: rest =>
    let first := pool.step action
    let last := first.1.run rest
    (last.1, first.2 ++ last.2)

end FetcherPool
end MessageInspector
