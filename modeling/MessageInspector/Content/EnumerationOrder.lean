import MessageInspector.Text.Decimal
/-!
# Enumeration order

The order in which a script enumerates the members of an object: keys that are array indices
first, ascending, then all other keys as they stand.
-/
namespace MessageInspector.Content

def indexBound : Nat := 0xFFFFFFFF

/-- The array index that a key writes without sign and superfluous zeros. -/
def arrayIndex? (key : String) : Option Nat :=
  match Decimal.natural? key.toList with
  | some n => if n < indexBound ∧ toString n = key then some n else none
  | none => none

def isIndexKey (key : String) : Bool := (arrayIndex? key).isSome

def indexLe {α : Type} (a b : String × α) : Bool :=
  (arrayIndex? a.1).getD 0 ≤ (arrayIndex? b.1).getD 0

def enumerationOrder {α : Type} (members : List (String × α)) : List (String × α) :=
  (members.filter fun m => isIndexKey m.1).mergeSort indexLe ++
    members.filter fun m => !isIndexKey m.1

end MessageInspector.Content
