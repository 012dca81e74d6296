import MessageInspector.Broker.ManagedObject
import MessageInspector.Message.Reference
import MessageInspector.Text.Percent
/-!
# Operations on managed objects

The address of an operation names the object, the operation and its parameters, each part encoded
so that it cannot be taken for a separator. Messages are asked about with two operations: one for
message info, one for the content.
-/
namespace MessageInspector

namespace ManagedObject

def trimBase (base : String) : String :=
  String.ofList (base.toList.reverse.dropWhile (· = '/')).reverse

def encodeParameter (parameter : String × String) : String :=
  Percent.encodeQuery parameter.1 ++ "=" ++ Percent.encodeQuery parameter.2

def queryPart (parameters : List (String × String)) : String :=
  if parameters.isEmpty then ""
  else "?" ++ String.intercalate "&" (parameters.map encodeParameter)

def operationUrl (object : ManagedObject) (base operation : String)
    (parameters : List (String × String)) : String :=
  trimBase base ++ "/api/latest/" ++
    String.intercalate "/"
      ((object.kind :: object.path ++ [operation]).map Percent.encodeSegment) ++
    queryPart parameters

end ManagedObject

def getMessageInfo : String := "getMessageInfoById"

def getMessageContent : String := "getMessageContent"

structure InfoQuery where
  id : MessageId
  includeHeaders : Bool
deriving DecidableEq, Repr

def InfoQuery.parameters (q : InfoQuery) : List (String × String) :=
  [("messageId", q.id.text), ("includeHeaders", toString q.includeHeaders)]

structure ContentQuery where
  id : MessageId
  /-- The most bytes to return; none for the whole content. -/
  limit : Option Nat
  /-- Lists and maps are rendered as JSON. -/
  returnJson : Bool
deriving DecidableEq, Repr

namespace ContentQuery

def full (id : MessageId) : ContentQuery := ⟨id, none, true⟩

def withLimit (q : ContentQuery) (limit : Nat) : ContentQuery := { q with limit := some limit }

def parameters (q : ContentQuery) : List (String × String) :=
  [("messageId", q.id.text), ("returnJson", toString q.returnJson)] ++
    (q.limit.map fun limit => ("limit", toString limit)).toList

end ContentQuery

/-- Content as an answer delivers it. -/
structure ContentPayload where
  bytes : List UInt8
  /-- The size that the answer claims for the whole content. -/
  declaredSize : Option Nat
deriving DecidableEq, Repr

end MessageInspector
