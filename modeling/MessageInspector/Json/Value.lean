/-!
# JSON values

A number without fraction and exponent is an integer, any other a double. An object keeps its
members in document order.
-/
namespace MessageInspector.Json

inductive Number
  | int (z : Int)
  | real (x : Float)
deriving DecidableEq

inductive Value
  | null
  | bool (b : Bool)
  | number (n : Number)
  | string (s : String)
  | array (items : List Value)
  | object (members : List (String × Value))

namespace Value

def isNull : Value → Bool
  | null => true
  | _ => false

def text? : Value → Option String
  | string s => some s
  | _ => none

def natural? : Value → Option Nat
  | number (.int z) => if 0 ≤ z then some z.toNat else none
  | _ => none

end Value
end MessageInspector.Json
