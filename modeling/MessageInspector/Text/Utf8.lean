/-!
# UTF-8

Texts as bytes, and bytes as texts. A byte sequence splits into units: a well-formed unit is one
character, an ill-formed one is a maximal subpart, that is the longest start of some character
that the bytes agree with, or one byte that starts none. Strict reading wants characters only;
lossy reading puts one replacement character for each ill-formed unit.
-/
namespace MessageInspector.Utf8

def encodeChar (c : Char) : List UInt8 :=
  let v := c.toNat
  if v < 0x80 then [UInt8.ofNat v]
  else if v < 0x800 then [UInt8.ofNat (0xC0 + v / 0x40), UInt8.ofNat (0x80 + v % 0x40)]
  else if v < 0x10000 then
    [UInt8.ofNat (0xE0 + v / 0x1000), UInt8.ofNat (0x80 + v / 0x40 % 0x40),
      UInt8.ofNat (0x80 + v % 0x40)]
  else
    [UInt8.ofNat (0xF0 + v / 0x40000), UInt8.ofNat (0x80 + v / 0x1000 % 0x40),
      UInt8.ofNat (0x80 + v / 0x40 % 0x40), UInt8.ofNat (0x80 + v % 0x40)]

def encode (cs : List Char) : List UInt8 := cs.flatMap encodeChar

def ofString (s : String) : List UInt8 := encode s.toList

/-- Read `left` further bytes of a character whose bits so far are `bits`. The next one must lie
in `lo … hi`, those after it in the full range of continuation bytes. -/
def complete : (left lo hi bits : Nat) → List UInt8 → Option Char × List UInt8
  | 0, _, _, bits, rest => (some (Char.ofNat bits), rest)
  | _ + 1, _, _, _, [] => (none, [])
  | left + 1, lo, hi, bits, b :: rest =>
    if lo ≤ b.toNat ∧ b.toNat ≤ hi then
      complete left 0x80 0xBF (bits * 0x40 + (b.toNat - 0x80)) rest
    else (none, b :: rest)

/-- The unit that starts with byte `b`, and the bytes after it. The second byte is restricted
after the lead bytes whose full range would give overlong forms, surrogates or values above
U+10FFFF. -/
def unit (b : UInt8) (rest : List UInt8) : Option Char × List UInt8 :=
  let v := b.toNat
  if v < 0x80 then (some (Char.ofNat v), rest)
  else if v < 0xC2 then (none, rest)
  else if v < 0xE0 then complete 1 0x80 0xBF (v - 0xC0) rest
  else if v < 0xF0 then
    complete 2 (if v = 0xE0 then 0xA0 else 0x80) (if v = 0xED then 0x9F else 0xBF) (v - 0xE0) rest
  else if v < 0xF5 then
    complete 3 (if v = 0xF0 then 0x90 else 0x80) (if v = 0xF4 then 0x8F else 0xBF) (v - 0xF0) rest
  else (none, rest)

theorem length_complete_le (left lo hi bits : Nat) (rest : List UInt8) :
    (complete left lo hi bits rest).2.length ≤ rest.length := by
  induction left generalizing lo hi bits rest with
  | zero => simp [complete]
  | succ left ih =>
    cases rest with
    | nil => simp [complete]
    | cons b rest =>
      simp only [complete]
      split
      · exact Nat.le_succ_of_le (ih ..)
      · simp

theorem length_unit_le (b : UInt8) (rest : List UInt8) :
    (unit b rest).2.length ≤ rest.length := by
  simp only [unit]
  repeat' split
  all_goals first | exact Nat.le_refl _ | exact length_complete_le ..

def units : List UInt8 → List (Option Char)
  | [] => []
  | b :: rest => (unit b rest).1 :: units (unit b rest).2
termination_by bytes => bytes.length
decreasing_by exact Nat.lt_succ_of_le (length_unit_le b rest)

def decode? (bytes : List UInt8) : Option String := ((units bytes).mapM id).map String.ofList

/-- Lossy reading: U+FFFD for each ill-formed unit. -/
def decodeLossy (bytes : List UInt8) : String :=
  String.ofList ((units bytes).map (·.getD '\uFFFD'))

end MessageInspector.Utf8
