import MessageInspector.Simulation.ScriptedBroker
import MessageInspector.Viewer.Shared
/-!
# Rehearsing shows

Shows on a shared viewer against a scripted broker whose answers can be held back. A gate holds back
the answers to the calls of its name, lets one through for each release, the first that came first,
and remembers one release that found none waiting. Between two commands every show goes on until it
has finished or waits at a gate.
-/
namespace MessageInspector.Simulation

/-- The shows that wait, in order of arrival, and whether the next one may pass. -/
structure Gate where
  name : String
  waiting : List Nat
  isOpen : Bool

def infoGate (id : MessageId) : String := "metadata:" ++ id.text
def contentGate (id : MessageId) : String := "content:" ++ id.text

structure ShowRehearsal where
  shared : SharedViewer
  broker : ScriptedBroker
  gates : List Gate
  /-- The name of each show. -/
  names : List String

namespace ShowRehearsal

def setGate (r : ShowRehearsal) (gate : Gate) : ShowRehearsal :=
  { r with gates := r.gates.map fun g => if g.name = gate.name then gate else g }

def gate? (r : ShowRehearsal) (name : String) : Option Gate := r.gates.find? (·.name = name)

def arrive (r : ShowRehearsal) (name : String) (index : Nat) : ShowRehearsal × Bool :=
  match r.gate? name with
  | none => (r, true)
  | some gate =>
    if gate.isOpen then (r.setGate { gate with isOpen := false }, true)
    else (r.setGate { gate with waiting := gate.waiting ++ [index] }, false)

def act (console : Console) (r : ShowRehearsal) (action : SharedViewer.Action) :
    ShowRehearsal × List Event :=
  let after := r.shared.step console action
  ({ r with shared := after.1 }, after.2)

def answerInfo (console : Console) (r : ShowRehearsal) (index : Nat) (fetch : InfoFetch) :
    ShowRehearsal × List Event :=
  let answered := r.broker.answerInfo ⟨fetch.id, fetch.scope.includesHeaders⟩
  act console { r with broker := answered.2 } (.answerInfo index answered.1)

def answerContent (console : Console) (r : ShowRehearsal) (index : Nat) (fetch : PreviewFetch) :
    ShowRehearsal × List Event :=
  let answered := r.broker.answerContent ((ContentQuery.full fetch.id).withLimit fetch.limit)
  act console { r with broker := answered.2 } (.answerContent index answered.1)

/-- One step of a show, which `mayPass` the gate that it stands at. The last component tells
whether the show can go on. -/
def advance (console : Console) (r : ShowRehearsal) (index : Nat) (mayPass : Bool) :
    ShowRehearsal × List Event × Bool :=
  match r.shared.stage? index with
  | some .begun =>
    let (r, events) := act console r (.requestInfo index)
    (r, events, true)
  | some (.awaitingInfo fetch) =>
    let (r, passes) := if mayPass then (r, true) else r.arrive (infoGate fetch.id) index
    if passes then
      let (r, events) := answerInfo console r index fetch
      (r, events, true)
    else (r, [], false)
  | some (.infoArrived _) =>
    let (r, events) := act console r (.completeInfo index)
    (r, events, true)
  | some (.awaitingContent request) =>
    let (r, passes) :=
      if mayPass then (r, true) else r.arrive (contentGate request.messageId) index
    if passes then
      let (r, events) := answerContent console r index request.fetch
      (r, events, true)
    else (r, [], false)
  | some (.contentArrived _ _) =>
    let (r, events) := act console r (.completePreview index)
    (r, events, true)
  | some (.finished _) => (r, [], false)
  | none => (r, [], false)

/-- A show takes at most seven steps. -/
def mostSteps : Nat := 7

def goOn (console : Console) : (steps : Nat) → ShowRehearsal → (index : Nat) → (mayPass : Bool) →
    ShowRehearsal × List Event
  | 0, r, _, _ => (r, [])
  | steps + 1, r, index, mayPass =>
    match advance console r index mayPass with
    | (r, events, true) =>
      let (r, more) := goOn console steps r index false
      (r, events ++ more)
    | (r, events, false) => (r, events)

inductive Command
  | start (name : String) (object : ManagedObject) (reference : MessageReference)
  /-- Let one answer through a gate. -/
  | release (gate : String)
  | hide
  /-- Only look. -/
  | look

def step (console : Console) (r : ShowRehearsal) : Command → ShowRehearsal × List Event
  | .start name object reference =>
    let index := r.shared.shows.length
    let (r, begun) := act console { r with names := r.names ++ [name] } (.begin object reference)
    let (r, events) := goOn console mostSteps r index false
    (r, begun ++ events)
  | .release name =>
    match r.gate? name with
    | none => (r, [])
    | some gate =>
      match gate.waiting with
      | [] => (r.setGate { gate with isOpen := true }, [])
      | index :: rest =>
        goOn console mostSteps (r.setGate { gate with waiting := rest }) index true
  | .hide => act console r .hide
  | .look => (r, [])

def outcomes (r : ShowRehearsal) : List (Option (String × ShowOutcome)) :=
  List.zipWith
    (fun name s =>
      match s.stage with
      | .finished outcome => some (name, outcome)
      | _ => none)
    r.names r.shared.shows

def finishedSince (before after : ShowRehearsal) : List (String × ShowOutcome) :=
  let new := List.zipWith
    (fun now earlier => if Option.isSome earlier then none else now)
    after.outcomes (before.outcomes ++ List.replicate after.names.length none)
  new.filterMap id

def pending (r : ShowRehearsal) : List String :=
  (r.names.zip r.outcomes).filterMap fun e => if e.2.isSome then none else some e.1

end ShowRehearsal
end MessageInspector.Simulation
