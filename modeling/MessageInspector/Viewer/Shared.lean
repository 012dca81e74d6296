import MessageInspector.Viewer.Basic
/-!
# Shared viewers

Several shows may be under way on one viewer. Each is a sequence of atomic steps: it begins, asks
for message info, receives an answer and perhaps asks again without headers, hands the final answer
to the viewer, and does the same with its content if a preview was planned. Steps of different shows
and calls to hide the dialog interleave in any order.
-/
namespace MessageInspector

inductive ShowOutcome
  | shown (token : Nat) (preview : Option PreviewTransition)
  /-- A later show or a hidden dialog took over. -/
  | superseded
  | failed (error : LoadError)
deriving DecidableEq, Repr

inductive ShowStage
  /-- Has begun and not asked for message info yet. -/
  | begun
  | awaitingInfo (fetch : InfoFetch)
  /-- Holds its final answer with message info. -/
  | infoArrived (answer : Except ApiError FetchedInfo)
  | awaitingContent (request : PreviewRequest)
  /-- Holds its answer with content. -/
  | contentArrived (request : PreviewRequest) (answer : Except ApiError ContentPayload)
  | finished (outcome : ShowOutcome)

structure Show where
  request : ShowRequest
  stage : ShowStage

/-- The viewer, the scope of its session and all shows in the order in which they began. -/
structure SharedViewer where
  viewer : Viewer
  session : FetchScope
  shows : List Show

namespace SharedViewer

def initial : SharedViewer := ⟨.initial, .headersIncluded, []⟩

inductive Action
  | begin (object : ManagedObject) (reference : MessageReference)
  /-- A show that has begun asks for message info, in the scope of the session. -/
  | requestInfo (index : Nat)
  | answerInfo (index : Nat) (answer : Except ApiError MessageInfo)
  | completeInfo (index : Nat)
  | answerContent (index : Nat) (answer : Except ApiError ContentPayload)
  | completePreview (index : Nat)
  | hide

def setStage (s : SharedViewer) (index : Nat) (stage : ShowStage) : SharedViewer :=
  { s with shows := s.shows.modify index ({ · with stage := stage }) }

def stage? (s : SharedViewer) (index : Nat) : Option ShowStage := s.shows[index]?.map (·.stage)

def stageOf : InfoFetchNext → ShowStage
  | .again fetch => .awaitingInfo fetch
  | .done answer => .infoArrived answer

def stageAfterInfo (token : Nat) : InfoTransition → ShowStage
  | .shown (some request) => .awaitingContent request
  | .shown none => .finished (.shown token none)
  | .failed e => .finished (.failed e)
  | .stale => .finished .superseded

def eventsAfterInfo : InfoTransition → List Event
  | .shown (some request) => request.fetch.events
  | .shown none => []
  | .failed _ => []
  | .stale => []

def outcomeAfterPreview (token : Nat) : PreviewTransition → ShowOutcome
  | .stale => .superseded
  | transition => .shown token (some transition)

/-- One atomic step with what it causes. A step out of turn changes nothing. -/
def step (console : Console) (s : SharedViewer) : Action → SharedViewer × List Event
  | .begin object reference =>
    let a := s.viewer.beginShow object reference
    ({ s with viewer := a.viewer, shows := s.shows ++ [⟨a.result, .begun⟩] },
      a.reports.map .reported)
  | .requestInfo i =>
    match s.shows[i]? with
    | some ⟨request, .begun⟩ =>
      let fetch : InfoFetch := ⟨request.object, request.reference.id, s.session⟩
      (s.setStage i (.awaitingInfo fetch), fetch.events)
    | _ => (s, [])
  | .answerInfo i answer =>
    match s.shows[i]? with
    | some ⟨_, .awaitingInfo fetch⟩ =>
      let after := fetch.answer s.session answer
      ({ s with session := after.session }.setStage i (stageOf after.next), after.events)
    | _ => (s, [])
  | .completeInfo i =>
    match s.shows[i]? with
    | some ⟨request, .infoArrived answer⟩ =>
      let a := s.viewer.completeInfo console request answer
      ({ s with viewer := a.viewer }.setStage i (stageAfterInfo request.token a.result),
        a.reports.map .reported ++ eventsAfterInfo a.result)
    | _ => (s, [])
  | .answerContent i answer =>
    match s.shows[i]? with
    | some ⟨_, .awaitingContent request⟩ =>
      (s.setStage i (.contentArrived request (request.fetch.receive answer)),
        (request.fetch.reports answer).map .reported)
    | _ => (s, [])
  | .completePreview i =>
    match s.shows[i]? with
    | some ⟨shown, .contentArrived request answer⟩ =>
      let a := s.viewer.completePreview console request answer
      ({ s with viewer := a.viewer }.setStage i
          (.finished (outcomeAfterPreview shown.token a.result)),
        a.reports.map .reported)
    | _ => (s, [])
  | .hide => ({ s with viewer := s.viewer.hide }, [])

def run (console : Console) (s : SharedViewer) : List Action → SharedViewer × List Event
  | [] => (s, [])
  | action :: rest =>
    let first := step console s action
    let last := run console first.1 rest
    (last.1, first.2 ++ last.2)

end SharedViewer
end MessageInspector
