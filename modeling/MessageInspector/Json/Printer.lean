import MessageInspector.Json.Value
import MessageInspector.Text.Decimal
import MessageInspector.Text.Shortest
/-!
# Writing JSON

The compact form has no blanks. Strings escape quotes, backslashes and control characters only.
Doubles are written with the fewest digits that identify them, always with a fraction where the
notation is positional.
-/
namespace MessageInspector.Json

/-- Where positional notation begins and ends: the power of ten of the first digit lies in
`from … upTo`. -/
structure Positional where
  lowest : Int
  highest : Int

/-- Numbers of at least 0.00001 and below 10 ^ 16 are written positionally. -/
def positional : Positional := ⟨-5, 15⟩

/-- Lay out a decimal: positionally with a fraction, else one digit before the point and a signed
exponent without padding. -/
def layout (range : Positional) (d : Shortest.Decimal) : List Char :=
  let ds := Nat.toDigits 10 d.digits
  let lead : Int := d.exponent + ds.length - 1
  if range.lowest ≤ lead ∧ lead ≤ range.highest then
    if 0 ≤ d.exponent then ds ++ List.replicate d.exponent.toNat '0' ++ ['.', '0']
    else if 0 ≤ lead then ds.take (lead.toNat + 1) ++ '.' :: ds.drop (lead.toNat + 1)
    else ['0', '.'] ++ List.replicate (-lead - 1).toNat '0' ++ ds
  else
    ds.take 1 ++ (if ds.length = 1 then [] else '.' :: ds.drop 1) ++
      'e' :: (if lead < 0 then '-' else '+') :: Nat.toDigits 10 lead.natAbs

/-- The text of a double; there is none for values that are not finite. -/
def realText (x : Float) : String :=
  if x.isFinite then
    let bits := x.toBits
    String.ofList ((if Shortest.signBit ≤ bits.toNat then ['-'] else []) ++
      layout positional (Shortest.ofBits bits))
  else "null"

def Number.text : Number → String
  | .int (.ofNat n) => toString n
  | .int (.negSucc n) => "-" ++ toString (n + 1)
  | .real x => realText x

def hexDigit (n : Nat) : Char := if n < 10 then Char.ofNat (0x30 + n) else Char.ofNat (0x57 + n)

def escapeChar (c : Char) : List Char :=
  if c = '\x22' then ['\\', '\x22']
  else if c = '\\' then ['\\', '\\']
  else if c.toNat < 0x20 then
    if c = '\x08' then ['\\', 'b']
    else if c = '\t' then ['\\', 't']
    else if c = '\n' then ['\\', 'n']
    else if c = '\x0C' then ['\\', 'f']
    else if c = '\r' then ['\\', 'r']
    else ['\\', 'u', '0', '0', hexDigit (c.toNat / 16), hexDigit (c.toNat % 16)]
  else [c]

def quote (s : String) : String :=
  String.ofList ('\x22' :: s.toList.flatMap escapeChar ++ ['\x22'])

mutual

def Value.compact : Value → String
  | .null => "null"
  | .bool true => "true"
  | .bool false => "false"
  | .number n => n.text
  | .string s => quote s
  | .array items => "[" ++ String.intercalate "," (compactItems items) ++ "]"
  | .object members => "\x7b" ++ String.intercalate "," (compactMembers members) ++ "\x7d"

def compactItems : List Value → List String
  | [] => []
  | v :: rest => v.compact :: compactItems rest

def compactMembers : List (String × Value) → List String
  | [] => []
  | (key, v) :: rest => (quote key ++ ":" ++ v.compact) :: compactMembers rest

end

/-- A record of scalars over several lines, one member a line, indented by two blanks. -/
def prettyRecord (members : List (String × Value)) : String :=
  "\x7b\n" ++
    String.intercalate ",\n" (members.map fun m => "  " ++ quote m.1 ++ ": " ++ m.2.compact) ++
    "\n\x7d"

/-- The display text of a value: nothing for null, a string as it is, all else in compact form. -/
def Value.display : Value → String
  | .null => ""
  | .string s => s
  | v => v.compact

end MessageInspector.Json
