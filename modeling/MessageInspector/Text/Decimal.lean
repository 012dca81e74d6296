/-!
# Decimal integers as text

Writing with a least number of digits, and reading a settings value: an optional sign and ASCII
digits only.
-/
namespace MessageInspector.Decimal

def padded (width n : Nat) : List Char :=
  let ds := Nat.toDigits 10 n
  List.replicate (width - ds.length) '0' ++ ds

def isDigit (c : Char) : Bool := '0' ≤ c && c ≤ '9'

/-- The number that a sequence of digits denotes; `none` if there is none or another character. -/
def natural? (cs : List Char) : Option Nat :=
  if cs.isEmpty || !cs.all isDigit then none
  else some (cs.foldl (fun n c => n * 10 + (c.toNat - '0'.toNat)) 0)

def unsigned? : List Char → Option Nat
  | '+' :: rest => natural? rest
  | cs => natural? cs

def signed? : List Char → Option Int
  | '+' :: rest => (natural? rest).map Int.ofNat
  | '-' :: rest => (natural? rest).map fun n => -Int.ofNat n
  | cs => (natural? cs).map Int.ofNat

end MessageInspector.Decimal
