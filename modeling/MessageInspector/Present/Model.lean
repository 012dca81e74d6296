import MessageInspector.Broker.Operation
import MessageInspector.Message.Info
import MessageInspector.Present.Slot
import MessageInspector.Preview.Content
import MessageInspector.Time.Preferences
/-!
# Presentation models

What the message dialog shows of one message: the attributes that have a slot, a link to the whole
content and a plan for the preview. If the message was fetched without its confidential parts,
fields of confidential slots are redacted and there is neither link nor preview.
-/
namespace MessageInspector.Present

inductive FieldContent
  /-- The attribute is null: its slot is claimed and stays empty. -/
  | empty
  | html (markup : String)
  /-- Confidential and not to be shown: a placeholder. -/
  | redacted
deriving DecidableEq, Repr

structure Field where
  slot : String
  kind : SlotKind
  content : FieldContent
deriving DecidableEq, Repr

def Field.html (field : Field) : String :=
  match field.content with
  | .html markup => markup
  | .empty => ""
  | .redacted => ""

structure DownloadLink where
  url : String
deriving DecidableEq, Repr

def DownloadLink.title (link : DownloadLink) : String := link.url

inductive PreviewPlan
  /-- No preview; no content is fetched. -/
  | hidden
  /-- The pane opens with this notice while the content is fetched. -/
  | pending (mimeType : String) (limit totalBytes : Nat) (notice : String)
deriving DecidableEq, Repr

structure Model where
  messageId : MessageId
  fields : List Field
  includesConfidential : Bool
  download : Option DownloadLink
  preview : PreviewPlan
deriving DecidableEq, Repr

namespace Model

def field? (model : Model) (slot : String) : Option Field := model.fields.find? (·.slot = slot)

def showRedactionWarning (model : Model) : Bool := !model.includesConfidential

def showPlaceholders (model : Model) : Bool := !model.includesConfidential

def previewNotice? (model : Model) : Option String :=
  match model.preview with
  | .pending _ _ _ notice => some notice
  | .hidden => none

end Model

/-- How messages are presented: which slots there are, how timestamps are written, how much content
a preview asks for and how many rows a text preview has. A preview asks for at least one byte. -/
structure Presenter where
  slots : SlotRegistry
  preferences : Time.Preferences
  previewLimit : Nat
  textRows : Nat
  previewLimit_pos : 0 < previewLimit

namespace Presenter

def defaultPreviewLimit : Nat := 1024
def defaultTextRows : Nat := 4

def ofSlots (slots : SlotRegistry) (preferences : Time.Preferences) : Presenter :=
  ⟨slots, preferences, defaultPreviewLimit, defaultTextRows, by decide⟩

def standard : Presenter := ofSlots .standard .utc

instance : Inhabited Presenter := ⟨standard⟩

/-- A limit of zero counts as one. -/
def withPreviewLimit (p : Presenter) (limit : Nat) : Presenter :=
  { p with previewLimit := max limit 1, previewLimit_pos := by omega }

def withTextRows (p : Presenter) (rows : Nat) : Presenter := { p with textRows := rows }

def plainMarkup (v : Json.Value) : String := Markup.escape v.display

def headerTable (members : List (String × Json.Value)) : Preview.Table :=
  .ofHeaders ((Content.enumerationOrder members).map fun m => (m.1, m.2.display))

/-- The markup of a value that is not null. -/
def valueMarkup (p : Presenter) (kind : SlotKind) (v : Json.Value) : String :=
  match kind, v with
  | .map, .object members => (headerTable members).markup
  | .dateTime, v =>
    match p.preferences.formatValue? .full v with
    | some text => Markup.escape text
    | none => plainMarkup v
  | _, v => plainMarkup v

def content (p : Presenter) (slot : Slot) (v : Json.Value) (includesConfidential : Bool) :
    FieldContent :=
  if slot.confidential ∧ includesConfidential = false then .redacted
  else if v.isNull then .empty
  else .html (p.valueMarkup slot.kind v)

def field? (p : Presenter) (includesConfidential : Bool) (entry : String × Json.Value) :
    Option Field :=
  (p.slots.get? entry.1).map fun slot =>
    ⟨slot.name, slot.kind, p.content slot entry.2 includesConfidential⟩

def plan (p : Presenter) (info : MessageInfo) : PreviewPlan :=
  match info.mimeType with
  | some mimeType =>
    if Content.isPreviewable (some mimeType) then
      .pending mimeType p.previewLimit info.sizeBytes
        (Preview.notice p.previewLimit info.sizeBytes)
    else .hidden
  | none => .hidden

/-- The model of a message. The address of its whole content is only asked for if confidential
parts may be shown. -/
def build (p : Presenter) (info : MessageInfo) (includesConfidential : Bool)
    (downloadUrl : MessageId → String) : Model :=
  { messageId := info.id
    fields := info.attributes.entries.filterMap (p.field? includesConfidential)
    includesConfidential := includesConfidential
    download := if includesConfidential then some ⟨downloadUrl info.id⟩ else none
    preview := if includesConfidential then p.plan info else .hidden }

def preview (p : Presenter) (body : DecodedBody) (limit totalBytes : Nat) :
    Preview.ContentPreview :=
  .ofBody body limit totalBytes p.textRows

end Presenter
end MessageInspector.Present
