import MessageInspector.Text.Blank
import MessageInspector.Time.Instant
import MessageInspector.Time.ZoneTable
/-!
# Showing timestamps

A user's preferences decide the local time in which instants are shown. The zone name is looked up
without blanks around it; if no zone has that name, a fixed offset is used. Zone data comes from
outside, so the look-up is a parameter.
-/
namespace MessageInspector.Time

inductive Clock
  | zone (zone : Zone)
  | fixed (seconds : Int)

structure Preferences where
  zoneName : String
  clock : Clock

def secondsPerDay : Int := 86400

/-- The offset of so many minutes, in seconds; UTC if it is a day or more. -/
def fixedOffset (minutes : Int) : Int :=
  let seconds := minutes * 60
  if -secondsPerDay < seconds ∧ seconds < secondsPerDay then seconds else 0

namespace Preferences

/-- The minutes only count if the look-up finds no zone of that name. -/
def ofZone (zoneName : String) (minutes : Int)
    (named? : String → Option Zone := ZoneTable.named?) : Preferences :=
  { zoneName := zoneName
    clock :=
      match named? (Text.trim zoneName) with
      | some zone => .zone zone
      | none => .fixed (fixedOffset minutes) }

def utc : Preferences := ⟨"UTC", .zone ZoneTable.utc⟩

instance : Inhabited Preferences := ⟨utc⟩

def offsetAt (p : Preferences) (second : Int) : Int :=
  match p.clock with
  | .zone zone => zone.offsetAt second
  | .fixed seconds => seconds

end Preferences

structure TimestampStyle where
  addOffset : Bool
  appendZone : Bool

def TimestampStyle.full : TimestampStyle := ⟨true, true⟩

def localText (instant : Instant) (offset : Int) : List Char :=
  let shown := instant.second + offset
  let clock := (shown % secondsPerDay).toNat
  (Date.ofDays (shown / secondsPerDay)).text ++ ' ' :: Decimal.padded 2 (clock / 3600) ++
    ':' :: Decimal.padded 2 (clock / 60 % 60) ++
    ':' :: Decimal.padded 2 (clock % 60 + if instant.leap then 1 else 0) ++
    '.' :: Decimal.padded 3 instant.milli

/-- An offset as sign, hours and minutes; its seconds are rounded to the nearest minute. -/
def offsetText (offset : Int) : List Char :=
  let minutes := (offset.natAbs + 30) / 60
  (if offset < 0 then '-' else '+') :: Decimal.padded 2 (minutes / 60) ++
    ':' :: Decimal.padded 2 (minutes % 60)

def Preferences.format (p : Preferences) (style : TimestampStyle) (instant : Instant) : String :=
  let offset := p.offsetAt instant.second
  String.ofList (localText instant offset) ++
    (if style.addOffset then " (UTC" ++ String.ofList (offsetText offset) ++ ")" else "") ++
    (if style.appendZone ∧ p.zoneName ≠ "" then " " ++ p.zoneName else "")

/-- A timestamp value as the user sees it; none if the value is not a timestamp. -/
def Preferences.formatValue? (p : Preferences) (style : TimestampStyle) (v : Json.Value) :
    Option String :=
  (instant? v).map (p.format style)

end MessageInspector.Time
