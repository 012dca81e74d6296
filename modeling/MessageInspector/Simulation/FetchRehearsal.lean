import MessageInspector.Fetch.Pool
import MessageInspector.Simulation.ScriptedBroker
/-!
# Rehearsing fetches

Fetchers of one session that fetch from a scripted broker, one fetch after another.
-/
namespace MessageInspector.Simulation

structure FetchRehearsal where
  pool : FetcherPool
  broker : ScriptedBroker

namespace FetchRehearsal

def answer? (r : FetchRehearsal) (index : Nat) : Option (Except ApiError FetchedInfo) :=
  match r.pool.fetches[index]? with
  | some ⟨_, .finished answer⟩ => some answer
  | _ => none

def answerOnce (r : FetchRehearsal) (index : Nat) : FetchRehearsal × List Event :=
  match r.pool.fetches[index]? with
  | some ⟨_, .waiting fetch⟩ =>
    let answered := r.broker.answerInfo ⟨fetch.id, fetch.scope.includesHeaders⟩
    let after := r.pool.step (.answer index answered.1)
    (⟨after.1, answered.2⟩, after.2)
  | _ => (r, [])

/-- Fetch message info; the fetch makes two calls at most. -/
def fetchInfo (r : FetchRehearsal) (fetcher : Nat) (object : ManagedObject) (id : MessageId) :
    FetchRehearsal × Option (Except ApiError FetchedInfo) × List Event :=
  let index := r.pool.fetches.length
  let started := r.pool.step (.start fetcher object id)
  let first := answerOnce ⟨started.1, r.broker⟩ index
  let second := first.1.answerOnce index
  (second.1, second.1.answer? index, started.2 ++ first.2 ++ second.2)

def fetchPreview (r : FetchRehearsal) (fetch : PreviewFetch) :
    FetchRehearsal × Except ApiError ContentPayload × List Event :=
  let answered :=
    r.broker.answerContent ((ContentQuery.full fetch.id).withLimit fetch.limit)
  ({ r with broker := answered.2 }, fetch.receive answered.1,
    fetch.events ++ (fetch.reports answered.1).map .reported)

def clone (r : FetchRehearsal) (fetcher : Nat) : FetchRehearsal × Nat :=
  ({ r with pool := (r.pool.step (.clone fetcher)).1 }, r.pool.fetchers.length)

end FetchRehearsal
end MessageInspector.Simulation
