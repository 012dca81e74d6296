import MessageInspector.Text.Utf8
/-!
# Percent-encoding

Each byte of a text either stands for itself or is written as `%` and two upper-case hexadecimal
digits. Bytes outside ASCII and control characters are always encoded; which further ASCII bytes
are depends on the part of the address.
-/
namespace MessageInspector.Percent

def hexDigit (n : Nat) : Char := if n < 10 then Char.ofNat (0x30 + n) else Char.ofNat (0x37 + n)

def isReservedEverywhere (b : UInt8) : Bool := b < 0x20 || 0x7F ≤ b

/-- Encoded inside a path segment: space, quote, `#`, `%`, `/`, angle brackets, `?`, square
brackets, backtick and braces. -/
def isReservedInPath (b : UInt8) : Bool :=
  isReservedEverywhere b || b ∈ [0x20, 0x22, 0x23, 0x25, 0x2F, 0x3C, 0x3E, 0x3F, 0x5B, 0x5D, 0x60,
    0x7B, 0x7D]

/-- Encoded inside a query key or value: also `&`, `=` and `+`. -/
def isReservedInQuery (b : UInt8) : Bool := isReservedInPath b || b ∈ [0x26, 0x3D, 0x2B]

def encodeByte (isReserved : UInt8 → Bool) (b : UInt8) : List Char :=
  if isReserved b then ['%', hexDigit (b.toNat / 16), hexDigit (b.toNat % 16)]
  else [Char.ofNat b.toNat]

def encode (isReserved : UInt8 → Bool) (s : String) : String :=
  String.ofList ((Utf8.ofString s).flatMap (encodeByte isReserved))

def encodeSegment (s : String) : String := encode isReservedInPath s

def encodeQuery (s : String) : String := encode isReservedInQuery s

end MessageInspector.Percent
