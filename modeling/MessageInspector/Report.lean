import MessageInspector.Fetch.Scope
import MessageInspector.Preview.Content
/-!
# Reports

What the console reports while it works, as events with one level and one wording each.
-/
namespace MessageInspector

inductive Level
  | debug
  | info
  | warn
deriving DecidableEq, Repr

def Level.name : Level → String
  | debug => "DEBUG"
  | info => "INFO"
  | warn => "WARN"

inductive Report
  /-- A show began. -/
  | showing (id : MessageId) (token : Nat)
  /-- Message info is requested. -/
  | loadingInfo (id : MessageId) (scope : FetchScope)
  /-- Headers were refused for the first time in this session. -/
  | headersRefused (id : MessageId)
  /-- Content is requested for a preview. -/
  | loadingPreview (id : MessageId) (mimeType : String) (limit : Nat)
  /-- More content came than was asked for. -/
  | truncating (received limit : Nat)
  /-- Message info came too late. -/
  | staleInfo (id : MessageId) (token : Nat)
  /-- Content came too late. -/
  | stalePreview (id : MessageId) (token : Nat)
  | fetchFailed (id : MessageId) (cause : ApiError)
  | decodeFailed (id : MessageId) (cause : DecodeError)
  /-- The answer and the message info disagree about the size of the content. -/
  | sizesDiffer (id : MessageId) (declared reported : Nat)
  /-- A structured body is shown as text. -/
  | shownAsText (reason : DecodeError)
  | disposed (widget : Nat)
  | mounting (kind : Preview.Kind) (widget : Nat)
deriving DecidableEq, Repr

namespace Report

def level : Report → Level
  | headersRefused _ => .info
  | staleInfo .. | stalePreview .. | fetchFailed .. | decodeFailed .. | shownAsText _ => .warn
  | showing .. | loadingInfo .. | loadingPreview .. | truncating .. | sizesDiffer .. | disposed _
  | mounting .. => .debug

def message : Report → String
  | showing id token => "Showing message " ++ id.text ++ " (invocation " ++ toString token ++ ")"
  | loadingInfo id scope => "Loading message " ++ id.text ++ " (" ++ scope.name ++ ")"
  | headersRefused id =>
    "Header access refused for message " ++ id.text ++ "; excluding headers for this session"
  | loadingPreview id mimeType limit =>
    "Loading preview of message " ++ id.text ++ " (" ++ mimeType ++ ", limit " ++
      toString limit ++ ")"
  | truncating received limit =>
    "Server returned " ++ toString received ++ " bytes for a " ++ toString limit ++
      " byte preview; truncating"
  | staleInfo id token =>
    "Discarding stale message info for " ++ id.text ++ " (invocation " ++ toString token ++ ")"
  | stalePreview id token =>
    "Discarding stale preview for " ++ id.text ++ " (invocation " ++ toString token ++ ")"
  | fetchFailed id cause =>
    "Preview of message " ++ id.text ++ " unavailable: " ++ cause.message
  | decodeFailed id cause =>
    "Preview of message " ++ id.text ++ " unavailable: " ++ cause.message
  | sizesDiffer id declared reported =>
    "Message " ++ id.text ++ " declares " ++ toString declared ++ " bytes, info reported " ++
      toString reported
  | shownAsText reason => "Showing preview as text: " ++ reason.message
  | disposed widget => "Disposed preview widget " ++ toString widget
  | mounting kind widget =>
    "Mounting " ++ kind.name ++ " preview as widget " ++ toString widget

def line (r : Report) : String := r.level.name ++ " " ++ r.message

end Report
end MessageInspector
