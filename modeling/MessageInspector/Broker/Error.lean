import MessageInspector.Message.Reference
/-!
# Failures

What can go wrong between the console and a broker, as causes with one wording each. A text that is
no JSON is named by a placeholder, since where exactly it breaks is of no use to the reader of a
message.
-/
namespace MessageInspector

/-- Stands in a message for a text that could not be read. -/
def unreadable : String := "<json>"

inductive ApiError
  /-- The principal may not do what was asked. -/
  | authorization (status : Nat)
  /-- The network or the broker failed. -/
  | transport (text : String)
  /-- The response could not be interpreted. -/
  | parse (text : String)
deriving DecidableEq, Repr

namespace ApiError

def message : ApiError → String
  | authorization status => "authorization failed (status " ++ toString status ++ ")"
  | transport text => "transport error: " ++ text
  | parse text => "malformed response: " ++ text

def status? : ApiError → Option Nat
  | authorization status => some status
  | _ => none

def forbidden : Nat := 403

/-- Only this refusal makes the console do without headers. -/
def isForbidden (e : ApiError) : Bool := e.status? == some forbidden

end ApiError

/-- What the owner of a message dialog is told when a message cannot be shown. -/
structure LoadError where
  id : MessageId
  cause : ApiError
deriving DecidableEq, Repr

def LoadError.message (e : LoadError) : String :=
  "failed to load message " ++ e.id.text ++ ": " ++ e.cause.message

end MessageInspector
