import MessageInspector.Broker.Error
import MessageInspector.Content.EnumerationOrder
import MessageInspector.Json.Document
/-!
# Message content

A content type decides how a body can be shown: as text, as a list of items or as a table of keys
and values. Lists and maps arrive as JSON. A body that was cut short does not parse any more and is
then shown as text instead.
-/
namespace MessageInspector

namespace Content

def listType : String := "amqp/list"
def mapType : String := "amqp/map"
def messageMapType : String := "jms/map-message"

/-- Content types are compared with case. -/
def isText (mimeType : String) : Bool := mimeType.startsWith "text/"

def isList (mimeType : String) : Bool := mimeType == listType

def isMap (mimeType : String) : Bool := mimeType == mapType || mimeType == messageMapType

def isPreviewable : Option String → Bool
  | some mimeType => isText mimeType || isList mimeType || isMap mimeType
  | none => false

end Content

inductive BodyShape
  | array
  | object
deriving DecidableEq, Repr

inductive DecodeError
  /-- No body of this type can be shown. -/
  | unsupported (mimeType : String)
  /-- The body is not JSON. -/
  | malformed (mimeType : String) (fault : Json.Fault)
  /-- The body is JSON of another shape. -/
  | unexpectedShape (mimeType : String) (expected : BodyShape)
deriving DecidableEq, Repr

def BodyShape.word : BodyShape → String
  | array => "array"
  | object => "object"

def DecodeError.message : DecodeError → String
  | unsupported mimeType => "unsupported content type: " ++ mimeType
  | malformed mimeType _ => "malformed " ++ mimeType ++ " content: " ++ unreadable
  | unexpectedShape mimeType expected => mimeType ++ " content is not a JSON " ++ expected.word

/-- A body in a form that can be shown. Items and values that are structured themselves appear as
compact JSON. -/
inductive DecodedBody
  | plainText (text : String)
  | itemList (items : List (Nat × String))
  | keyValueTable (entries : List (String × String))
deriving DecidableEq, Repr

namespace Content

def plainText (raw : List UInt8) : DecodedBody := .plainText (Utf8.decodeLossy raw)

def itemRows (index : Nat) : List Json.Value → List (Nat × String)
  | [] => []
  | v :: rest => (index, v.compact) :: itemRows (index + 1) rest

def memberRows (members : List (String × Json.Value)) : List (String × String) :=
  (enumerationOrder members).map fun m => (m.1, m.2.compact)

/-- Decode a body, which may have been cut short, as its content type says. -/
def decode (mimeType : String) (raw : List UInt8) : Except DecodeError DecodedBody :=
  if isText mimeType then .ok (plainText raw)
  else if isList mimeType then
    match Json.read raw with
    | .error fault => .error (.malformed mimeType fault)
    | .ok (.array items) => .ok (.itemList (itemRows 0 items))
    | .ok _ => .error (.unexpectedShape mimeType .array)
  else if isMap mimeType then
    match Json.read raw with
    | .error fault => .error (.malformed mimeType fault)
    | .ok (.object members) => .ok (.keyValueTable (memberRows members))
    | .ok _ => .error (.unexpectedShape mimeType .object)
  else .error (.unsupported mimeType)

/-- The reason for which a body of a structured type is shown as text. -/
def fallbackReason? (mimeType : String) (raw : List UInt8) : Option DecodeError :=
  match decode mimeType raw with
  | .error (.unsupported _) => none
  | .error e => some e
  | .ok _ => none

def decodeOrText (mimeType : String) (raw : List UInt8) : Except DecodeError DecodedBody :=
  match decode mimeType raw with
  | .ok body => .ok body
  | .error (.unsupported m) => .error (.unsupported m)
  | .error _ => .ok (plainText raw)

end Content
end MessageInspector
