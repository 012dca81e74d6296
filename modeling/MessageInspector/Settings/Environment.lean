import MessageInspector.Settings.Basic
/-!
# Settings from the environment

Environment variables override single settings. A variable that is not a number of the setting's
type, or a blank zone name, counts as not set.
-/
namespace MessageInspector

abbrev Environment := String → Option String

namespace Settings

def previewLimitVariable : String := "QPID_VIEWER_PREVIEW_LIMIT"
def timeZoneVariable : String := "QPID_VIEWER_TIME_ZONE"
def utcOffsetVariable : String := "QPID_VIEWER_UTC_OFFSET"

def previewLimitOf (text : String) : Option Nat :=
  (Decimal.unsigned? text.toList).filter (· < bound64)

def timeZoneOf (text : String) : Option String :=
  if Text.trim text = "" then none else some (Text.trim text)

def utcOffsetOf (text : String) : Option Int :=
  (Decimal.signed? text.toList).filter fun z => lowest32 ≤ z ∧ z ≤ highest32

/-- The settings with those of the environment in their place, moved into their ranges. -/
def withEnvironment (s : Settings) (environment : Environment) : Settings :=
  clamped
    { s with
      previewLimit := ((environment previewLimitVariable).bind previewLimitOf).getD s.previewLimit
      timeZone := ((environment timeZoneVariable).bind timeZoneOf).getD s.timeZone
      utcOffsetMinutes :=
        ((environment utcOffsetVariable).bind utcOffsetOf).getD s.utcOffsetMinutes }

end Settings
end MessageInspector
