/-!
# Shortest decimals of doubles

The decimal with the fewest digits among those that round to a given double, and among several of
that length the nearest one, an exact tie going to the even digit. The search works on the exact
interval of reals that round to the double; no step of it rounds.
-/
namespace MessageInspector.Shortest

/-- A positive double `mid` and the ends `low` and `high` of the interval of reals that round to
it, in units of `2 ^ scale`. The ends belong to the interval exactly when it is `closed`. -/
structure Interval where
  low : Nat
  mid : Nat
  high : Nat
  scale : Int
  closed : Bool

/-- The bits of a double are its sign, eleven bits of exponent and fifty-two bits of fraction. -/
def fractionBound : Nat := 0x10000000000000
def exponentBound : Nat := 0x800
def signBit : Nat := 0x8000000000000000

/-- The interval of the finite double with these bits, its sign left out. Units are a quarter of
the spacing above the double; below a power of two the spacing is half of that. -/
def Interval.ofBits (bits : UInt64) : Interval :=
  let fraction := bits.toNat % fractionBound
  let biased := bits.toNat / fractionBound % exponentBound
  let mantissa := if biased = 0 then fraction else fractionBound + fraction
  { low := 4 * mantissa - (if fraction = 0 ∧ 1 < biased then 1 else 2)
    mid := 4 * mantissa
    high := 4 * mantissa + 2
    scale := (max biased 1 : Nat) - 1077
    closed := mantissa % 2 = 0 }

structure Decimal where
  digits : Nat
  exponent : Int

/-- The multiple of `10 ^ exponent` in the interval that is nearest to `mid`, if there is one. Only
the two neighbours of `mid` can be. -/
def Interval.multiple? (i : Interval) (exponent : Int) : Option Nat :=
  let up := Nat.pow 2 i.scale.toNat * Nat.pow 10 (-exponent).toNat
  let grid := Nat.pow 2 (-i.scale).toNat * Nat.pow 10 exponent.toNat
  let inside (n : Nat) : Bool :=
    if i.closed then i.low * up ≤ n * grid && n * grid ≤ i.high * up
    else i.low * up < n * grid && n * grid < i.high * up
  let below := i.mid * up / grid
  if inside below then
    if inside (below + 1) then
      match compare (2 * i.mid * up) ((2 * below + 1) * grid) with
      | .lt => some below
      | .gt => some (below + 1)
      | .eq => some (if below % 2 = 0 then below else below + 1)
    else some below
  else if inside (below + 1) then some (below + 1)
  else none

/-- Try ever finer powers of ten. Seventeen digits identify a double, so a search from above its
first digit ends before `steps` runs out. -/
def Interval.search (i : Interval) : (steps : Nat) → (exponent : Int) → Decimal
  | 0, exponent => ⟨i.mid * Nat.pow 2 i.scale.toNat / Nat.pow 2 (-i.scale).toNat, exponent⟩
  | steps + 1, exponent =>
    match i.multiple? exponent with
    | some digits => ⟨digits, exponent⟩
    | none => i.search steps (exponent - 1)

/-- The shortest decimal of the interval. The search starts above the first digit, since 0.30103
exceeds the common logarithm of two. -/
def Interval.shortest (i : Interval) : Decimal :=
  i.search 24 ((i.high.log2 + 1 + i.scale) * 30103 / 100000 + 1)

def ofBits (bits : UInt64) : Decimal :=
  if bits.toNat % signBit = 0 then ⟨0, 0⟩ else (Interval.ofBits bits).shortest

end MessageInspector.Shortest
