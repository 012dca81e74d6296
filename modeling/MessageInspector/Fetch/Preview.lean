import MessageInspector.Fetch.Info
/-!
# Fetching content for a preview

A preview asks for so many bytes of the content, rendered as text. Should more arrive, only the
first ones are kept.
-/
namespace MessageInspector

/-- The first bytes of a payload. The declared size stays. -/
def ContentPayload.cut (payload : ContentPayload) (limit : Nat) : ContentPayload :=
  { payload with bytes := payload.bytes.take limit }

structure PreviewFetch where
  object : ManagedObject
  id : MessageId
  mimeType : String
  limit : Nat
deriving DecidableEq, Repr

namespace PreviewFetch

def call (fetch : PreviewFetch) : Call :=
  .content fetch.object ((ContentQuery.full fetch.id).withLimit fetch.limit) fetch.mimeType

def events (fetch : PreviewFetch) : List Event :=
  [.reported (.loadingPreview fetch.id fetch.mimeType fetch.limit), .called fetch.call]

def receive (fetch : PreviewFetch) (answer : Except ApiError ContentPayload) :
    Except ApiError ContentPayload :=
  answer.map (·.cut fetch.limit)

def reports (fetch : PreviewFetch) : Except ApiError ContentPayload → List Report
  | .ok payload =>
    if fetch.limit < payload.bytes.length then [.truncating payload.bytes.length fetch.limit]
    else []
  | .error _ => []

end PreviewFetch
end MessageInspector
