import MessageInspector.Viewer.Basic
/-!
# Driving a viewer by hand

A dialog is a viewer together with the requests that it has handed out. Answers may be given to any
of these requests, in any order and more than once.
-/
namespace MessageInspector

structure Dialog where
  viewer : Viewer
  shows : List ShowRequest
  previews : List PreviewRequest
deriving Repr

namespace Dialog

def initial : Dialog := ⟨.initial, [], []⟩

inductive Action
  | begin (object : ManagedObject) (reference : MessageReference)
  /-- Answer the show request of this number. -/
  | completeInfo (request : Nat) (answer : Except ApiError FetchedInfo)
  /-- Answer the preview request of this number. -/
  | completePreview (request : Nat) (answer : Except ApiError ContentPayload)
  | hide

inductive Reply
  | begun (request : ShowRequest)
  | info (transition : InfoTransition)
  | preview (transition : PreviewTransition)
  | hidden
  /-- No request of that number was handed out. -/
  | noSuchRequest
deriving DecidableEq, Repr

def handedOut : InfoTransition → List PreviewRequest
  | .shown request => request.toList
  | .failed _ => []
  | .stale => []

def step (console : Console) (d : Dialog) : Action → Dialog × Reply × List Report
  | .begin object reference =>
    let a := d.viewer.beginShow object reference
    ({ d with viewer := a.viewer, shows := d.shows ++ [a.result] }, .begun a.result, a.reports)
  | .completeInfo i answer =>
    match d.shows[i]? with
    | none => (d, .noSuchRequest, [])
    | some request =>
      let a := d.viewer.completeInfo console request answer
      ({ d with viewer := a.viewer, previews := d.previews ++ handedOut a.result },
        .info a.result, a.reports)
  | .completePreview i answer =>
    match d.previews[i]? with
    | none => (d, .noSuchRequest, [])
    | some request =>
      let a := d.viewer.completePreview console request answer
      ({ d with viewer := a.viewer }, .preview a.result, a.reports)
  | .hide => ({ d with viewer := d.viewer.hide }, .hidden, [])

def run (console : Console) (d : Dialog) : List Action → Dialog × List Reply
  | [] => (d, [])
  | action :: rest =>
    let first := step console d action
    let last := run console first.1 rest
    (last.1, first.2.1 :: last.2)

end Dialog
end MessageInspector
