import MessageInspector.Json.Value
import MessageInspector.Time.Calendar
/-!
# Instants

A timestamp is an integer of epoch milliseconds, any other number truncated to one, or a text of
the form `YYYY-MM-DDTHH:MM:SS.fff±HH:MM`. Fractions are cut to milliseconds. A text may name the
second 60 of any minute, which is kept as a leap second on top of second 59.
-/
namespace MessageInspector.Time

/-- An epoch second with its milliseconds. A `leap` instant lies in the leap second after it. -/
structure Instant where
  second : Int
  milli : Nat
  leap : Bool
deriving DecidableEq, Repr

def earliestMilli : Int := -8334601228800000
def latestMilli : Int := 8210266876799999

namespace Instant

def ofMillis (millis : Int) : Instant := ⟨millis / 1000, (millis % 1000).toNat, false⟩

def ofMillis? (millis : Int) : Option Instant :=
  if earliestMilli ≤ millis ∧ millis ≤ latestMilli then some (ofMillis millis) else none

end Instant

/-- The number written with exactly `count` digits at the front, after `n`. -/
def fixedDigits : (count n : Nat) → List Char → Option (Nat × List Char)
  | 0, n, cs => some (n, cs)
  | _ + 1, _, [] => none
  | count + 1, n, c :: cs =>
    if Decimal.isDigit c then fixedDigits count (n * 10 + (c.toNat - '0'.toNat)) cs else none

def expect (c : Char) : List Char → Option (List Char)
  | [] => none
  | d :: rest => if d = c then some rest else none

def fraction : List Char → Option (Nat × List Char)
  | '.' :: rest =>
    let ds := rest.takeWhile Decimal.isDigit
    if ds.isEmpty then none
    else do
      let (milli, _) ← fixedDigits 3 0 (ds ++ ['0', '0'])
      some (milli, rest.dropWhile Decimal.isDigit)
  | cs => some (0, cs)

def offsetText? : List Char → Option Int
  | [] => none
  | c :: rest =>
    if c = 'Z' ∨ c = 'z' then if rest.isEmpty then some 0 else none
    else if c = '+' ∨ c = '-' ∨ c = '\u2212' then do
      let (hour, rest) ← fixedDigits 2 0 rest
      let rest ← expect ':' rest
      let (minute, rest) ← fixedDigits 2 0 rest
      if rest.isEmpty ∧ hour ≤ 23 ∧ minute ≤ 59 then
        let seconds : Int := (hour * 60 + minute) * 60
        some (if c = '+' then seconds else -seconds)
      else none
    else none

def dateText? (cs : List Char) : Option (Date × List Char) := do
  let (year, cs) ← fixedDigits 4 0 cs
  let cs ← expect '-' cs
  let (month, cs) ← fixedDigits 2 0 cs
  let cs ← expect '-' cs
  let (day, cs) ← fixedDigits 2 0 cs
  let date : Date := ⟨year, month, day⟩
  if date.isReal then some (date, cs) else none

/-- Hour, minute and second, the last up to 60. -/
def clockText? (cs : List Char) : Option ((Nat × Nat × Nat) × List Char) := do
  let (hour, cs) ← fixedDigits 2 0 cs
  let cs ← expect ':' cs
  let (minute, cs) ← fixedDigits 2 0 cs
  let cs ← expect ':' cs
  let (second, cs) ← fixedDigits 2 0 cs
  if hour ≤ 23 ∧ minute ≤ 59 ∧ second ≤ 60 then some ((hour, minute, second), cs) else none

def separator? : List Char → Option (List Char)
  | [] => none
  | c :: rest => if c = 'T' ∨ c = 't' ∨ c = ' ' then some rest else none

def instantText? (cs : List Char) : Option Instant := do
  let (date, cs) ← dateText? cs
  let cs ← separator? cs
  let ((hour, minute, second), cs) ← clockText? cs
  let (milli, cs) ← fraction cs
  let offset ← offsetText? cs
  let clock : Int := (hour * 60 + minute) * 60 + min second 59
  some ⟨date.toDays * 86400 + clock - offset, milli, second = 60⟩

def instant? : Json.Value → Option Instant
  | .number (.int z) => Instant.ofMillis? z
  | .number (.real x) => Instant.ofMillis? x.toInt64.toInt
  | .string s => instantText? s.toList
  | _ => none

end MessageInspector.Time
