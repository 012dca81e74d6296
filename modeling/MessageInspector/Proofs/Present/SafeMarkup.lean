import MessageInspector.Proofs.Content.Enumeration
import MessageInspector.Proofs.Present.Redaction
import MessageInspector.Proofs.Text.Entities
/-!
# Safe markup

Whatever the attributes of a message hold, the markup of a field is text without markup of its own or
the table of headers. The tags of that table are the console's, and its cells are such text again.
-/
namespace MessageInspector

namespace Markup

def readTag : Option (List Char) → Char → Option (List Char)
  | none, c => if c = '<' then some [] else none
  | some name, c => if c = '>' then none else some (name ++ [c])

def tagsFrom : Option (List Char) → List Char → List String
  | _, [] => []
  | none, c :: rest => tagsFrom (readTag none c) rest
  | some name, c :: rest =>
    (if c = '>' then [String.ofList name] else []) ++ tagsFrom (readTag (some name) c) rest

/-- The tags of a text, each as what stands between its angle brackets. -/
def tags (s : String) : List String := tagsFrom none s.toList

def Whole (s : String) : Prop := s.toList.foldl readTag none = none

instance (s : String) : Decidable (Whole s) := inferInstanceAs (Decidable (_ = _))

theorem tagsFrom_append (name : Option (List Char)) (text rest : List Char) :
    tagsFrom name (text ++ rest) = tagsFrom name text ++ tagsFrom (text.foldl readTag name) rest := by
  induction text generalizing name with
  | nil => rfl
  | cons c text ih =>
    cases name with
    | none => exact ih _
    | some name => simp only [List.cons_append, tagsFrom, List.foldl_cons, ih, List.append_assoc]

theorem tags_append {s : String} (h : Whole s) (t : String) : tags (s ++ t) = tags s ++ tags t := by
  rw [tags, String.toList_append, tagsFrom_append, h]
  rfl

theorem Whole.append {s t : String} (hs : Whole s) (ht : Whole t) : Whole (s ++ t) := by
  rw [Whole, String.toList_append, List.foldl_append, hs, ht]

theorem foldl_readTag_text {text : List Char} (h : '<' ∉ text) : text.foldl readTag none = none := by
  induction text with
  | nil => rfl
  | cons c text ih =>
    rw [List.mem_cons, not_or] at h
    have hc : readTag none c = none := if_neg (Ne.symm h.1)
    rw [List.foldl_cons, hc, ih h.2]

theorem tagsFrom_text {text : List Char} (h : '<' ∉ text) : tagsFrom none text = [] := by
  induction text with
  | nil => rfl
  | cons c text ih =>
    rw [List.mem_cons, not_or] at h
    have hc : readTag none c = none := if_neg (Ne.symm h.1)
    rw [tagsFrom, hc, ih h.2]

theorem Inert.whole {s : String} (h : Inert s.toList) : Whole s := foldl_readTag_text h.no_tag

theorem Inert.tags {s : String} (h : Inert s.toList) : tags s = [] := tagsFrom_text h.no_tag

end Markup

namespace Present
open Preview

def tableCell (text : String) : String := "<td>" ++ text ++ "</td>"

def headerRow (cells : String × String) : String :=
  "<tr>" ++ (tableCell cells.1 ++ tableCell cells.2) ++ "</tr>"

def tableOf (labels rows : String) : String :=
  "<table style='border: 1pt'><tr>" ++ labels ++ "</tr>" ++ rows ++ "</table>"

def headerLabels : String :=
  "<th style='width: 6em; font-weight: bold'>Header</th>" ++
    "<th style='font-weight: bold'>Value</th>"

def headerTableMarkup (cells : List (String × String)) : String :=
  tableOf headerLabels (String.join (cells.map headerRow))

def headerRowTags : List String := ["tr", "td", "/td", "td", "/td", "/tr"]

def headerTableTags (rows : Nat) : List String :=
  ["table style='border: 1pt'", "tr", "th style='width: 6em; font-weight: bold'", "/th",
    "th style='font-weight: bold'", "/th", "/tr"] ++
    (List.replicate rows headerRowTags).flatten ++ ["/table"]

theorem markup_eq (table : Table) :
    table.markup = tableOf (String.join (table.columns.map Table.headerMarkup))
      (String.join (table.rows.map (Table.rowMarkup table.columns))) := rfl

theorem labels_ofHeaders (headers : List (String × String)) :
    String.join ((Table.ofHeaders headers).columns.map Table.headerMarkup) = headerLabels := by
  have hlabels : String.join (([⟨"id", "Header", some "6em"⟩, ⟨"value", "Value", none⟩] :
      List Column).map Table.headerMarkup) = headerLabels := by decide +kernel
  exact hlabels

theorem rowMarkup_ofHeaders (headers : List (String × String)) (row : Row) :
    Table.rowMarkup (Table.ofHeaders headers).columns row =
      headerRow (Markup.escape row.id, Markup.escape row.value) := by
  have hid : Table.cell row ⟨"id", "Header", some "6em"⟩ = row.id := rfl
  have hvalue : Table.cell row ⟨"value", "Value", none⟩ = row.value := by simp [Table.cell]
  simp only [Table.ofHeaders, Table.rowMarkup, List.map_cons, List.map_nil, Table.cellMarkup, hid,
    hvalue, headerRow, tableCell]
  rw [String.join_cons, String.join_cons, String.join_nil, String.append_empty]

theorem markup_ofHeaders (headers : List (String × String)) :
    (Table.ofHeaders headers).markup = headerTableMarkup
      (headers.map fun header => (Markup.escape header.1, Markup.escape header.2)) := by
  have hrows : (Table.ofHeaders headers).rows.map
      (Table.rowMarkup (Table.ofHeaders headers).columns) =
        (headers.map fun header => (Markup.escape header.1, Markup.escape header.2)).map
          headerRow := by
    rw [List.map_map, funext (rowMarkup_ofHeaders headers)]
    simp only [Table.ofHeaders, List.map_map]
    rfl
  rw [markup_eq, labels_ofHeaders, hrows, headerTableMarkup]

section Tags
variable {cells : String × String} {rows : List (String × String)}

theorem whole_tableCell {text : String} (h : Markup.Inert text.toList) :
    Markup.Whole (tableCell text) := by
  have hopen : Markup.Whole "<td>" := by decide +kernel
  have hclose : Markup.Whole "</td>" := by decide +kernel
  exact (hopen.append h.whole).append hclose

theorem tags_tableCell {text : String} (h : Markup.Inert text.toList) :
    Markup.tags (tableCell text) = ["td", "/td"] := by
  have hopen : Markup.Whole "<td>" := by decide +kernel
  rw [tableCell, Markup.tags_append (hopen.append h.whole), Markup.tags_append hopen, h.tags]
  decide +kernel

theorem whole_headerRow (first : Markup.Inert cells.1.toList)
    (second : Markup.Inert cells.2.toList) : Markup.Whole (headerRow cells) := by
  have hopen : Markup.Whole "<tr>" := by decide +kernel
  have hclose : Markup.Whole "</tr>" := by decide +kernel
  exact (hopen.append ((whole_tableCell first).append (whole_tableCell second))).append hclose

theorem tags_headerRow (first : Markup.Inert cells.1.toList)
    (second : Markup.Inert cells.2.toList) : Markup.tags (headerRow cells) = headerRowTags := by
  have hopen : Markup.Whole "<tr>" := by decide +kernel
  have hcells := (whole_tableCell first).append (whole_tableCell second)
  rw [headerRow, Markup.tags_append (hopen.append hcells), Markup.tags_append hopen,
    Markup.tags_append (whole_tableCell first), tags_tableCell first, tags_tableCell second]
  decide +kernel

variable (inert : ∀ cells ∈ rows, Markup.Inert cells.1.toList ∧ Markup.Inert cells.2.toList)
include inert

theorem whole_rows : Markup.Whole (String.join (rows.map headerRow)) := by
  induction rows with
  | nil => decide +kernel
  | cons cells rows ih =>
    obtain ⟨first, second⟩ := inert cells List.mem_cons_self
    have hrest := ih fun other h => inert other (List.mem_cons_of_mem _ h)
    rw [List.map_cons, String.join_cons]
    exact (whole_headerRow first second).append hrest

theorem tags_rows : Markup.tags (String.join (rows.map headerRow)) =
    (List.replicate rows.length headerRowTags).flatten := by
  induction rows with
  | nil => decide +kernel
  | cons cells rows ih =>
    obtain ⟨first, second⟩ := inert cells List.mem_cons_self
    have hrest := ih fun other h => inert other (List.mem_cons_of_mem _ h)
    rw [List.map_cons, String.join_cons, Markup.tags_append (whole_headerRow first second),
      tags_headerRow first second, hrest, List.length_cons, List.replicate_succ, List.flatten_cons]

theorem tags_headerTableMarkup :
    Markup.tags (headerTableMarkup rows) = headerTableTags rows.length := by
  have hhead : Markup.Whole ("<table style='border: 1pt'><tr>" ++ headerLabels ++ "</tr>") := by
    decide +kernel
  have htags : Markup.tags ("<table style='border: 1pt'><tr>" ++ headerLabels ++ "</tr>") =
      ["table style='border: 1pt'", "tr", "th style='width: 6em; font-weight: bold'", "/th",
        "th style='font-weight: bold'", "/th", "/tr"] := by decide +kernel
  have hend : Markup.tags "</table>" = ["/table"] := by decide +kernel
  have hbody := hhead.append (whole_rows inert)
  calc Markup.tags (headerTableMarkup rows)
      = Markup.tags ("<table style='border: 1pt'><tr>" ++ headerLabels ++ "</tr>" ++
          String.join (rows.map headerRow)) ++ Markup.tags "</table>" :=
        Markup.tags_append hbody "</table>"
    _ = headerTableTags rows.length := by
        rw [Markup.tags_append hhead, tags_rows inert, htags, hend, headerTableTags]

end Tags

namespace Presenter

def shownText (p : Presenter) (kind : SlotKind) (value : Json.Value) : String :=
  match kind with
  | .dateTime => (p.preferences.formatValue? .full value).getD value.display
  | .plain => value.display
  | .map => value.display

/-- The markup that a slot may show of a value. -/
inductive Safe (p : Presenter) : SlotKind → Json.Value → String → Prop
  | text {kind value markup} (single : kind ≠ .map ∨ ∀ members, value ≠ .object members)
      (inert : Markup.Inert markup.toList)
      (reads : Markup.unescape markup = p.shownText kind value) : Safe p kind value markup
  | table {members rows}
      (inert : ∀ cells ∈ rows, Markup.Inert cells.1.toList ∧ Markup.Inert cells.2.toList)
      (reads : rows.map (fun cells => (Markup.unescape cells.1, Markup.unescape cells.2)) =
        (Content.enumerationOrder members).map fun member => (member.1, member.2.display))
      (tags : Markup.tags (headerTableMarkup rows) = headerTableTags members.length) :
      Safe p .map (.object members) (headerTableMarkup rows)

variable {p : Presenter}

theorem valueMarkup_eq_escape {kind : SlotKind} {value : Json.Value}
    (single : kind ≠ .map ∨ ∀ members, value ≠ .object members) :
    p.valueMarkup kind value = Markup.escape (p.shownText kind value) := by
  cases kind with
  | plain => cases value <;> rfl
  | dateTime =>
    rw [valueMarkup, shownText]
    cases p.preferences.formatValue? .full value <;> rfl
  | map =>
    cases value with
    | object members =>
      obtain h | h := single
      · exact absurd rfl h
      · exact absurd rfl (h members)
    | _ => rfl

theorem safe_valueMarkup (p : Presenter) (kind : SlotKind) (value : Json.Value) :
    p.Safe kind value (p.valueMarkup kind value) := by
  by_cases single : kind ≠ .map ∨ ∀ members, value ≠ .object members
  · rw [valueMarkup_eq_escape single]
    exact .text single (Markup.inert_escape _) (Markup.unescape_escape _)
  · simp only [not_or, not_not, not_forall] at single
    obtain ⟨rfl, members, rfl⟩ := single
    let headers := (Content.enumerationOrder members).map fun m => (m.1, m.2.display)
    have hlength : headers.length = members.length := by
      rw [List.length_map, (Content.enumerationOrder_perm members).length_eq]
    have inert : ∀ cells ∈ headers.map fun h => (Markup.escape h.1, Markup.escape h.2),
        Markup.Inert cells.1.toList ∧ Markup.Inert cells.2.toList := by
      intro cells hcells
      obtain ⟨header, -, rfl⟩ := List.mem_map.mp hcells
      exact ⟨Markup.inert_escape _, Markup.inert_escape _⟩
    have hmarkup : p.valueMarkup .map (.object members) =
        headerTableMarkup (headers.map fun h => (Markup.escape h.1, Markup.escape h.2)) :=
      markup_ofHeaders headers
    rw [hmarkup]
    refine .table inert ?_ ?_
    · rw [List.map_map]
      have hundone : ((fun cells : String × String =>
          (Markup.unescape cells.1, Markup.unescape cells.2)) ∘
            fun h : String × String => (Markup.escape h.1, Markup.escape h.2)) = id := by
        funext h
        simp only [Function.comp, Markup.unescape_escape, id]
      rw [hundone, List.map_id]
    · rw [tags_headerTableMarkup inert, List.length_map, hlength]

/-- No value of an attribute adds markup to the field that shows it. -/
theorem safe_of_mem_build {info : MessageInfo} {includesConfidential : Bool}
    {downloadUrl : MessageId → String} {field : Field} {markup : String}
    (hfield : field ∈ (p.build info includesConfidential downloadUrl).fields)
    (hmarkup : field.content = .html markup) :
    ∃ slot value, p.slots.get? field.slot = some slot ∧
      (field.slot, value) ∈ info.attributes.entries ∧ field.kind = slot.kind ∧
      p.Safe slot.kind value markup := by
  obtain ⟨slot, value, hslot, hentry, rfl⟩ := slot_of_mem_build hfield
  refine ⟨slot, value, hslot, hentry, rfl, ?_⟩
  simp only [content] at hmarkup
  split at hmarkup
  · cases hmarkup
  · split at hmarkup
    · cases hmarkup
    · cases hmarkup
      exact safe_valueMarkup p slot.kind value

theorem safe_of_script :
    let headers : Json.Value := .object [("<b>", .string "a&b"), ("7", .bool true)]
    let info : MessageInfo := ⟨⟨⟨"1"⟩, 0, none⟩, .ofList [("headers", headers)]⟩
    let markup := headerTableMarkup [("7", "true"), ("&lt;b&gt;", "a&amp;b")]
    ⟨"headers", .map, .html markup⟩ ∈ (standard.build info true fun _ => "").fields ∧
      ∃ slot value, standard.slots.get? "headers" = some slot ∧
        ("headers", value) ∈ info.attributes.entries ∧ SlotKind.map = slot.kind ∧
        standard.Safe slot.kind value markup := by
  intro headers info markup
  have hfield : ⟨"headers", .map, .html markup⟩ ∈ (standard.build info true fun _ => "").fields := by
    decide +kernel
  exact ⟨hfield, safe_of_mem_build hfield rfl⟩

end Presenter
end Present
end MessageInspector
