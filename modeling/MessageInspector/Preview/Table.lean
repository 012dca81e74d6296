import MessageInspector.Text.Markup
/-!
# Tables

Rows with an identifier and a value, under columns that show one or the other. As markup, every
label and cell is escaped; a column's width is markup of the console itself.
-/
namespace MessageInspector.Preview

structure Column where
  /-- The row field to show: `id`, or else the value. -/
  field : String
  label : String
  width : Option String
deriving DecidableEq, Repr

structure Row where
  id : String
  value : String
deriving DecidableEq, Repr

structure Table where
  columns : List Column
  rows : List Row
deriving DecidableEq, Repr

namespace Table

def cell (row : Row) (column : Column) : String :=
  if column.field = "id" then row.id else row.value

def headerMarkup (column : Column) : String :=
  "<th style='" ++
    (match column.width with
      | some width => "width: " ++ width ++ "; "
      | none => "") ++
    "font-weight: bold'>" ++ Markup.escape column.label ++ "</th>"

def cellMarkup (row : Row) (column : Column) : String :=
  "<td>" ++ Markup.escape (cell row column) ++ "</td>"

def rowMarkup (columns : List Column) (row : Row) : String :=
  "<tr>" ++ String.join (columns.map (cellMarkup row)) ++ "</tr>"

/-- The table as markup: one row of labels, then the rows. -/
def markup (table : Table) : String :=
  "<table style='border: 1pt'><tr>" ++ String.join (table.columns.map headerMarkup) ++ "</tr>" ++
    String.join (table.rows.map (rowMarkup table.columns)) ++ "</table>"

def ofItems (items : List (Nat × String)) : Table :=
  { columns := [⟨"value", "Item", none⟩]
    rows := items.map fun item => ⟨toString item.1, item.2⟩ }

def ofEntries (entries : List (String × String)) : Table :=
  { columns := [⟨"id", "Key", none⟩, ⟨"value", "Value", none⟩]
    rows := entries.map fun entry => ⟨entry.1, entry.2⟩ }

/-- Header names and values, under a first column of fixed width. -/
def ofHeaders (headers : List (String × String)) : Table :=
  { columns := [⟨"id", "Header", some "6em"⟩, ⟨"value", "Value", none⟩]
    rows := headers.map fun header => ⟨header.1, header.2⟩ }

end Table
end MessageInspector.Preview
