/-!
# Time zones

A zone is the offset from UTC in force before its first transition, and the transitions in
ascending order. Offsets and instants are in seconds.
-/
namespace MessageInspector.Time

/-- From `instant` on, `offset` is in force. -/
structure Transition where
  instant : Int
  offset : Int

structure Zone where
  initial : Int
  transitions : List Transition

/-- The offset in force at an epoch second after the given transitions, `current` before them. -/
def offsetAfter (current : Int) : List Transition → (second : Int) → Int
  | [], _ => current
  | t :: rest, second => if t.instant ≤ second then offsetAfter t.offset rest second else current

def Zone.offsetAt (zone : Zone) (second : Int) : Int :=
  offsetAfter zone.initial zone.transitions second

end MessageInspector.Time
