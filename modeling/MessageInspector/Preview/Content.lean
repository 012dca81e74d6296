import MessageInspector.Content.Body
import MessageInspector.Preview.Table
/-!
# Content previews

A decoded body with a widget that shows it and an account of how much of the whole content it is.
-/
namespace MessageInspector.Preview

structure TextArea where
  text : String
  rows : Nat
  readOnly : Bool
deriving DecidableEq, Repr

inductive Widget
  | text (area : TextArea)
  | table (table : Table)
deriving DecidableEq, Repr

inductive Kind
  | plainText
  | itemList
  | keyValueTable
deriving DecidableEq, Repr

def Kind.name : Kind → String
  | plainText => "PlainText"
  | itemList => "ItemList"
  | keyValueTable => "KeyValueTable"

/-- How much is shown of so many bytes under a limit. -/
def notice (limit totalBytes : Nat) : String :=
  if limit < totalBytes then
    "showing the first " ++ toString limit ++ " of " ++ toString totalBytes ++ " bytes"
  else "showing all " ++ toString totalBytes ++ " bytes"

structure ContentPreview where
  kind : Kind
  widget : Widget
  truncated : Bool
  shownBytes : Nat
  totalBytes : Nat
deriving DecidableEq, Repr

def kindOf : DecodedBody → Kind
  | .plainText _ => .plainText
  | .itemList _ => .itemList
  | .keyValueTable _ => .keyValueTable

def widgetOf (textRows : Nat) : DecodedBody → Widget
  | .plainText text => .text ⟨text, textRows, true⟩
  | .itemList items => .table (.ofItems items)
  | .keyValueTable entries => .table (.ofEntries entries)

namespace ContentPreview

def ofBody (body : DecodedBody) (limit totalBytes textRows : Nat) : ContentPreview :=
  let shownBytes := min totalBytes limit
  { kind := kindOf body
    widget := widgetOf textRows body
    truncated := shownBytes < totalBytes
    shownBytes := shownBytes
    totalBytes := totalBytes }

def rows (preview : ContentPreview) : List Row :=
  match preview.widget with
  | .table table => table.rows
  | .text _ => []

def notice (preview : ContentPreview) : String :=
  Preview.notice preview.shownBytes preview.totalBytes

end ContentPreview
end MessageInspector.Preview
