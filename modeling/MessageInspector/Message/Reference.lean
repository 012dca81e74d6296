import MessageInspector.Json.Printer
import MessageInspector.Json.Record
/-!
# Message references

A message is named by an opaque identifier. Brokers report it as a number or as a text that is not
empty. A reference adds what a listing of messages knows: the size and the content type.
-/
namespace MessageInspector

structure MessageId where
  text : String
deriving DecidableEq, Repr

namespace MessageId

def ofValue? : Json.Value → Option MessageId
  | .number n => some ⟨n.text⟩
  | .string s => if s = "" then none else some ⟨s⟩
  | _ => none

def ofNat (n : Nat) : MessageId := ⟨toString n⟩

def reader : Json.Reader MessageId := Json.text.map MessageId.mk

def toValue (id : MessageId) : Json.Value := .string id.text

end MessageId

structure MessageReference where
  id : MessageId
  sizeBytes : Nat
  mimeType : Option String
deriving DecidableEq, Repr

namespace MessageReference

/-- Sizes are unsigned 64-bit numbers. -/
def sizeBound : Nat := 0x10000000000000000

structure Draft where
  id : Option MessageId
  sizeBytes : Option Nat
  mimeType : Option (Option String)

/-- In an object the content type may be missing, in an array it may not. -/
def record : Json.Record Draft MessageReference where
  fields := [
    .of "id" MessageId.reader Draft.id (fun a d => { d with id := some a }),
    .of "size_bytes" (Json.naturalBelow sizeBound) Draft.sizeBytes
      (fun a d => { d with sizeBytes := some a }),
    .of "mime_type" Json.optionalText Draft.mimeType (fun a d => { d with mimeType := some a })]
  blank := ⟨none, none, none⟩
  mayEndEarly := false
  finish := fun d => do some ⟨← d.id, ← d.sizeBytes, d.mimeType.getD none⟩

def toValue (r : MessageReference) : Json.Value :=
  .object [("id", r.id.toValue), ("size_bytes", .number (.int r.sizeBytes)),
    ("mime_type", (r.mimeType.map Json.Value.string).getD .null)]

end MessageReference
end MessageInspector
