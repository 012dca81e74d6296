import MessageInspector.Json.Printer
import MessageInspector.Json.Record
/-!
# Managed objects

An object of the broker's model, such as a queue: its kind, and the names on the way from the root
of the hierarchy down to it.
-/
namespace MessageInspector

structure ManagedObject where
  kind : String
  path : List String
deriving DecidableEq, Repr

namespace ManagedObject

def queue (virtualHostNode virtualHost name : String) : ManagedObject :=
  ⟨"queue", [virtualHostNode, virtualHost, name]⟩

def name? (object : ManagedObject) : Option String := object.path.getLast?

structure Draft where
  kind : Option String
  path : Option (List String)

def record : Json.Record Draft ManagedObject where
  fields := [
    .of "kind" Json.text Draft.kind (fun a d => { d with kind := some a }),
    .of "path" Json.textList Draft.path (fun a d => { d with path := some a })]
  blank := ⟨none, none⟩
  mayEndEarly := false
  finish := fun d => do some ⟨← d.kind, ← d.path⟩

def toValue (object : ManagedObject) : Json.Value :=
  .object [("kind", .string object.kind), ("path", .array (object.path.map .string))]

end ManagedObject
end MessageInspector
