import MessageInspector.Present.Model
/-!
# Settings

What a user can set. A document may leave out any setting, and values out of range are moved to the
nearest one in range.
-/
namespace MessageInspector

structure Settings where
  /-- Bytes of content asked for in a preview. -/
  previewLimit : Nat
  /-- Zone in which timestamps are shown; its name is appended to them. -/
  timeZone : String
  /-- Minutes from UTC, used if no zone has that name. -/
  utcOffsetMinutes : Int
  /-- Rows of a text preview. -/
  textPreviewRows : Nat
deriving DecidableEq, Repr

namespace Settings

def default : Settings :=
  { previewLimit := Present.Presenter.defaultPreviewLimit
    timeZone := "UTC"
    utcOffsetMinutes := 0
    textPreviewRows := Present.Presenter.defaultTextRows }

instance : Inhabited Settings := ⟨default⟩

def largestPreviewLimit : Nat := 1024 * 1024
def largestOffsetMinutes : Int := 14 * 60

def clamped (s : Settings) : Settings :=
  { s with
    previewLimit := max 1 (min s.previewLimit largestPreviewLimit)
    utcOffsetMinutes := max (-largestOffsetMinutes) (min s.utcOffsetMinutes largestOffsetMinutes)
    textPreviewRows := max 1 s.textPreviewRows }

/-- Unsigned numbers of 64 and of 32 bits lie below these. -/
def bound64 : Nat := 0x10000000000000000
def bound32 : Nat := 0x100000000

def lowest32 : Int := -0x80000000
def highest32 : Int := 0x7FFFFFFF

structure Draft where
  previewLimit : Option Nat
  timeZone : Option String
  utcOffsetMinutes : Option Int
  textPreviewRows : Option Nat

/-- Any setting may be missing. -/
def record : Json.Record Draft Settings where
  fields := [
    .of "preview_limit" (Json.naturalBelow bound64) Draft.previewLimit
      (fun a d => { d with previewLimit := some a }),
    .of "time_zone" Json.text Draft.timeZone (fun a d => { d with timeZone := some a }),
    .of "utc_offset_minutes" (Json.integerBetween lowest32 highest32) Draft.utcOffsetMinutes
      (fun a d => { d with utcOffsetMinutes := some a }),
    .of "text_preview_rows" (Json.naturalBelow bound32) Draft.textPreviewRows
      (fun a d => { d with textPreviewRows := some a })]
  blank := ⟨none, none, none, none⟩
  mayEndEarly := true
  finish := fun d =>
    some
      { previewLimit := d.previewLimit.getD default.previewLimit
        timeZone := d.timeZone.getD default.timeZone
        utcOffsetMinutes := d.utcOffsetMinutes.getD default.utcOffsetMinutes
        textPreviewRows := d.textPreviewRows.getD default.textPreviewRows }

def ofText (s : String) : Except Json.Fault Settings :=
  (Json.document record.reader (Utf8.ofString s)).map clamped

def members (s : Settings) : List (String × Json.Value) :=
  [("preview_limit", .number (.int s.previewLimit)), ("time_zone", .string s.timeZone),
    ("utc_offset_minutes", .number (.int s.utcOffsetMinutes)),
    ("text_preview_rows", .number (.int s.textPreviewRows))]

def toValue (s : Settings) : Json.Value := .object s.members

def document (s : Settings) : String := Json.prettyRecord s.members

def preferences (s : Settings) (named? : String → Option Time.Zone := Time.ZoneTable.named?) :
    Time.Preferences :=
  .ofZone s.timeZone s.utcOffsetMinutes named?

def presenter (s : Settings) (named? : String → Option Time.Zone := Time.ZoneTable.named?) :
    Present.Presenter :=
  let presenter := Present.Presenter.ofSlots .standard (s.preferences named?)
  (presenter.withPreviewLimit s.previewLimit).withTextRows s.textPreviewRows

end Settings
end MessageInspector
