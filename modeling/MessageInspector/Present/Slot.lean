import MessageInspector.OrderedMap
/-!
# Display slots

The places of the message dialog that can show an attribute, each registered under the attribute's
name. Registering a name again replaces its slot in place.
-/
namespace MessageInspector.Present

inductive SlotKind
  | plain
  /-- A mapping, shown as a table of headers. -/
  | map
  | dateTime
deriving DecidableEq, Repr

def SlotKind.name : SlotKind → String
  | plain => "Plain"
  | map => "Map"
  | dateTime => "DateTime"

structure Slot where
  name : String
  kind : SlotKind
  /-- Shown only if the whole message could be fetched. -/
  confidential : Bool
deriving DecidableEq, Repr

/-- Every slot stands under its own name. -/
structure SlotRegistry where
  slots : OrderedMap Slot
  named : ∀ entry ∈ slots.entries, entry.2.name = entry.1

namespace SlotRegistry

def empty : SlotRegistry := ⟨.empty, by simp [OrderedMap.empty]⟩

def register (registry : SlotRegistry) (slot : Slot) : SlotRegistry where
  slots := registry.slots.insert slot.name slot
  named := by
    intro entry h
    rcases OrderedMap.eq_or_mem_of_mem_put h with rfl | h
    · rfl
    · exact registry.named entry h

def ofList (slots : List Slot) : SlotRegistry := slots.foldl register empty

def get? (registry : SlotRegistry) (name : String) : Option Slot := registry.slots.get? name

def size (registry : SlotRegistry) : Nat := registry.slots.size

def isEmpty (registry : SlotRegistry) : Bool := registry.slots.isEmpty

def standardPlain : List String :=
  ["id", "messageId", "correlationId", "userId", "encoding", "mimeType", "size", "priority",
    "persistent", "state", "deliveryCount"]

def standardDateTime : List String :=
  ["arrivalTime", "expirationTime", "timestamp", "initialDeliveryTime"]

/-- The slots of the standard message dialog. Only the headers are confidential. -/
def standard : SlotRegistry :=
  ofList (standardPlain.map (⟨·, .plain, false⟩) ++ standardDateTime.map (⟨·, .dateTime, false⟩) ++
    [⟨"headers", .map, true⟩])

end SlotRegistry
end MessageInspector.Present
