import MessageInspector.Fetch.Preview
import MessageInspector.Present.Model
import MessageInspector.Preview.Pane
/-!
# The message viewer

The viewer owns what the message dialog shows. Showing a message takes two answers from the broker,
the message info and then perhaps its content. Each show draws a token when it begins, and an answer
only counts while its token is the newest: a later show, or hiding the dialog, supersedes it.
-/
namespace MessageInspector

inductive Phase
  | hidden
  | loading
  | shown
deriving DecidableEq, Repr

def Phase.name : Phase → String
  | hidden => "Hidden"
  | loading => "Loading"
  | shown => "Shown"

/-- What the viewer needs of its surroundings: how messages are presented, and where an object's
content can be downloaded. -/
structure Console where
  presenter : Present.Presenter
  downloadUrl : ManagedObject → ContentQuery → String

def Console.wholeContentUrl (console : Console) (object : ManagedObject) (id : MessageId) :
    String :=
  console.downloadUrl object (.full id)

structure ShowRequest where
  token : Nat
  object : ManagedObject
  reference : MessageReference
  /-- The slots that the show before had filled. -/
  clearedSlots : List String
deriving DecidableEq, Repr

structure PreviewRequest where
  token : Nat
  object : ManagedObject
  messageId : MessageId
  mimeType : String
  limit : Nat
  totalBytes : Nat
deriving DecidableEq, Repr

def PreviewRequest.fetch (request : PreviewRequest) : PreviewFetch :=
  ⟨request.object, request.messageId, request.mimeType, request.limit⟩

inductive InfoTransition
  /-- The fields are shown; a preview may follow. -/
  | shown (preview : Option PreviewRequest)
  /-- There is nothing to show, and the dialog is hidden. -/
  | failed (error : LoadError)
  | stale
deriving DecidableEq, Repr

inductive PreviewTransition
  | mounted (widget : Nat)
  /-- The pane stays empty. -/
  | unavailable
  | stale
deriving DecidableEq, Repr

/-- The phase, what is on screen and the token drawn last. -/
structure Viewer where
  phase : Phase
  model : Option Present.Model
  populated : List String
  pane : Preview.Pane
  latest : Nat
deriving DecidableEq, Repr

/-- A viewer after an operation, with what the operation returns and reports. -/
structure Applied (α : Type) where
  viewer : Viewer
  result : α
  reports : List Report

namespace Viewer

def initial : Viewer := ⟨.hidden, none, [], .empty, 0⟩

instance : Inhabited Viewer := ⟨initial⟩

def isCurrent (v : Viewer) (token : Nat) : Bool := token == v.latest

/-- Begin a show: supersede the one before, clear what it left and wait for message info. -/
def beginShow (v : Viewer) (object : ManagedObject) (reference : MessageReference) :
    Applied ShowRequest :=
  let token := v.latest + 1
  { viewer := ⟨.loading, none, [], v.pane.dispose, token⟩
    result := ⟨token, object, reference, v.populated⟩
    reports := v.pane.disposeReports ++ [.showing reference.id token] }

def previewRequest (request : ShowRequest) (model : Present.Model) : Option PreviewRequest :=
  match model.preview with
  | .pending mimeType limit totalBytes _ =>
    some ⟨request.token, request.object, model.messageId, mimeType, limit, totalBytes⟩
  | .hidden => none

def modelOf (console : Console) (request : ShowRequest) (fetched : FetchedInfo) : Present.Model :=
  console.presenter.build fetched.info fetched.includesConfidential
    (console.wholeContentUrl request.object)

def completeInfo (console : Console) (v : Viewer) (request : ShowRequest)
    (answer : Except ApiError FetchedInfo) : Applied InfoTransition :=
  if v.isCurrent request.token then
    match answer with
    | .ok fetched =>
      let model := modelOf console request fetched
      { viewer :=
          { v with
            phase := .shown
            model := some model
            populated := model.fields.map (·.slot) }
        result := .shown (previewRequest request model)
        reports := [] }
    | .error e =>
      { viewer := { v with phase := .hidden }
        result := .failed ⟨request.reference.id, e⟩
        reports := [] }
  else ⟨v, .stale, [.staleInfo request.reference.id request.token]⟩

/-- What is reported if an answer declares another size than the message info did. -/
def sizeReports (request : PreviewRequest) (payload : ContentPayload) : List Report :=
  match payload.declaredSize with
  | some declared =>
    if declared = request.totalBytes then []
    else [.sizesDiffer request.messageId declared request.totalBytes]
  | none => []

def withoutPreview (v : Viewer) (reports : List Report) : Applied PreviewTransition :=
  ⟨{ v with pane := v.pane.dispose }, .unavailable, reports ++ v.pane.disposeReports⟩

def completePreview (console : Console) (v : Viewer) (request : PreviewRequest)
    (answer : Except ApiError ContentPayload) : Applied PreviewTransition :=
  if v.isCurrent request.token then
    match answer with
    | .error e => v.withoutPreview [.fetchFailed request.messageId e]
    | .ok payload =>
      match Content.decodeOrText request.mimeType payload.bytes with
      | .error e =>
        v.withoutPreview (sizeReports request payload ++ [.decodeFailed request.messageId e])
      | .ok body =>
        let preview := console.presenter.preview body request.limit request.totalBytes
        { viewer := { v with pane := v.pane.mount preview }
          result := .mounted v.pane.nextWidget
          reports :=
            sizeReports request payload ++
              ((Content.fallbackReason? request.mimeType payload.bytes).map
                Report.shownAsText).toList ++
              v.pane.mountReports preview }
  else ⟨v, .stale, [.stalePreview request.messageId request.token]⟩

/-- Hide the dialog and supersede the show under way. What was shown stays until the next show. -/
def hide (v : Viewer) : Viewer := { v with phase := .hidden, latest := v.latest + 1 }

end Viewer
end MessageInspector
