import MessageInspector.Broker.Error
import MessageInspector.OrderedMap
/-!
# Message info

What a broker tells about one message: attributes in the order in which it reports them. The
identifier is required; size and content type have defaults. Info never changes once it is read.
-/
namespace MessageInspector

structure MessageInfo where
  reference : MessageReference
  attributes : OrderedMap Json.Value

namespace MessageInfo

def idKey : String := "id"
def sizeKey : String := "size"
def mimeTypeKey : String := "mimeType"

def mimeTypeOf (v : Json.Value) : Option String := v.text?.filter (· ≠ "")

def ofAttributes (attributes : OrderedMap Json.Value) : Except ApiError MessageInfo :=
  match (attributes.get? idKey).bind MessageId.ofValue? with
  | none => .error (.parse "message info has no id")
  | some id =>
    .ok {
      reference :=
        { id := id
          sizeBytes := ((attributes.get? sizeKey).bind Json.Value.natural?).getD 0
          mimeType := (attributes.get? mimeTypeKey).bind mimeTypeOf }
      attributes := attributes }

def ofValue : Json.Value → Except ApiError MessageInfo
  | .object members => ofAttributes (.ofList members)
  | _ => .error (.parse "message info is not a JSON object")

def ofText (s : String) : Except ApiError MessageInfo :=
  match Json.readText s with
  | .ok v => ofValue v
  | .error _ => .error (.parse unreadable)

def id (info : MessageInfo) : MessageId := info.reference.id

def sizeBytes (info : MessageInfo) : Nat := info.reference.sizeBytes

def mimeType (info : MessageInfo) : Option String := info.reference.mimeType

end MessageInfo
end MessageInspector
