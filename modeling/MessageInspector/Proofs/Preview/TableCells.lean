import MessageInspector.Preview.Table
import MessageInspector.Proofs.Text.Elements
/-!
# The cells of a table

The labels of a table depend on its columns alone, and the rest of its markup is read back at its tags,
row by row and cell by cell. So tables under the same columns share their markup exactly if they show
the same texts.
-/
namespace MessageInspector.Preview.Table
open Markup

/-- The texts that a table shows, row by row. -/
def cells (table : Table) : List (List String) :=
  table.rows.map fun row => table.columns.map (cell row)

/-- Two lists of rows show the same texts. -/
def ShowAlike (columns : List Column) (rows others : List Row) : Prop :=
  rows.length = others.length ∧
    ∀ (i : Nat) (row other : Row), rows[i]? = some row → others[i]? = some other →
      ∀ column ∈ columns, cell row column = cell other column

theorem cells_eq_iff (columns : List Column) (rows others : List Row) :
    cells ⟨columns, rows⟩ = cells ⟨columns, others⟩ ↔ ShowAlike columns rows others := by
  constructor
  · intro h
    constructor
    · simpa [cells] using congrArg List.length h
    · intro i row other hrow hother
      have hi := congrArg (fun lines => lines[i]?) h
      simpa [cells, hrow, hother] using hi
  · rintro ⟨hlength, alike⟩
    apply List.ext_getElem
    · simpa [cells] using hlength
    · intro i hi hi'
      have hrow : i < rows.length := by simpa [cells] using hi
      have hother : i < others.length := by simpa [cells] using hi'
      have same := alike i _ _ (List.getElem?_eq_getElem hrow) (List.getElem?_eq_getElem hother)
      simpa [cells] using same

def headMarkup (columns : List Column) : String :=
  "<table style='border: 1pt'><tr>" ++ String.join (columns.map headerMarkup) ++ "</tr>"

def rowContent (texts : List String) : List Char :=
  (texts.map fun text => (escape text).toList).flatMap (element "td")

def bodyContent (rows : List (List String)) : List Char :=
  (rows.map rowContent).flatMap (element "tr")

def body? (columns : List Column) (markup : String) : Option (List Char) := do
  let rest ← markup.toList.dropPrefix? (headMarkup columns).toList
  rest.dropSuffix? "</table>".toList

def readRow (content : List Char) : List String :=
  (contents "td" content).map fun text => unescape (String.ofList text)

def readBody (body : List Char) : List (List String) := (contents "tr" body).map readRow

theorem isName_row : IsName "tr" := by decide

theorem isName_cell : IsName "td" := by decide

theorem readRow_rowContent (texts : List String) : readRow (rowContent texts) = texts := by
  have absent : ∀ text ∈ texts.map fun text => (escape text).toList,
      ¬ openTag "td" <:+: text ∧ ¬ closeTag "td" <:+: text := by
    intro text htext
    obtain ⟨shown, -, rfl⟩ := List.mem_map.mp htext
    have hplain := (inert_escape shown).no_tag
    exact ⟨fun hwithin => hplain (hwithin.subset List.mem_cons_self),
      fun hwithin => hplain (hwithin.subset List.mem_cons_self)⟩
  have hundone (text : String) : unescape (String.ofList (escape text).toList) = text := by
    rw [String.ofList_toList, unescape_escape]
  rw [readRow, rowContent, contents_elements isName_cell absent, List.map_map]
  exact List.map_id'' hundone texts

theorem absent_rowContent {tag : List Char} (htag : IsTag tag)
    (other : ∀ own ∈ [openTag "td", closeTag "td"], ¬ tag <+: own ∧ ¬ own <+: tag)
    (texts : List String) : ¬ tag <:+: rowContent texts := by
  apply absent_elements htag isName_cell other
  intro text htext
  obtain ⟨shown, -, rfl⟩ := List.mem_map.mp htext
  exact (inert_escape shown).no_tag

theorem readBody_bodyContent (rows : List (List String)) : readBody (bodyContent rows) = rows := by
  have absent : ∀ content ∈ rows.map rowContent,
      ¬ openTag "tr" <:+: content ∧ ¬ closeTag "tr" <:+: content := by
    intro content hcontent
    obtain ⟨texts, -, rfl⟩ := List.mem_map.mp hcontent
    exact ⟨absent_rowContent (isTag_openTag isName_row.1) (by decide) texts,
      absent_rowContent (isTag_closeTag isName_row.1) (by decide) texts⟩
  rw [readBody, bodyContent, contents_elements isName_row absent, List.map_map]
  exact List.map_id'' readRow_rowContent rows

theorem toList_cellMarkup (row : Row) (column : Column) :
    (cellMarkup row column).toList = element "td" (escape (cell row column)).toList := by
  rw [cellMarkup, String.toList_append, String.toList_append]
  rfl

theorem toList_rowMarkup (columns : List Column) (row : Row) :
    (rowMarkup columns row).toList = element "tr" (rowContent (columns.map (cell row))) := by
  rw [rowMarkup, String.toList_append, String.toList_append, String.toList_join, rowContent]
  simp only [List.flatMap_map, toList_cellMarkup]
  rfl

theorem toList_markup (table : Table) :
    table.markup.toList = (headMarkup table.columns).toList ++
      (bodyContent table.cells ++ "</table>".toList) := by
  have hrows : (String.join (table.rows.map (rowMarkup table.columns))).toList =
      bodyContent table.cells := by
    rw [String.toList_join, bodyContent, cells]
    simp only [List.flatMap_map, toList_rowMarkup]
  have hmarkup : table.markup = headMarkup table.columns ++
      String.join (table.rows.map (rowMarkup table.columns)) ++ "</table>" := rfl
  rw [hmarkup, String.toList_append, String.toList_append, hrows, List.append_assoc]

theorem body?_markup (table : Table) :
    body? table.columns table.markup = some (bodyContent table.cells) := by
  have hhead : table.markup.toList.dropPrefix? (headMarkup table.columns).toList =
      some (bodyContent table.cells ++ "</table>".toList) :=
    List.dropPrefix?_eq_some_iff.mpr ⟨_, toList_markup table, beq_self_eq_true _⟩
  have hend : (bodyContent table.cells ++ "</table>".toList).dropSuffix? "</table>".toList =
      some (bodyContent table.cells) :=
    List.dropSuffix?_eq_some_iff.mpr ⟨_, rfl, beq_self_eq_true _⟩
  rw [body?, hhead]
  exact hend

theorem markup_eq_iff (columns : List Column) (rows others : List Row) :
    markup ⟨columns, rows⟩ = markup ⟨columns, others⟩ ↔
      cells ⟨columns, rows⟩ = cells ⟨columns, others⟩ := by
  constructor
  · intro h
    have hbody : some (bodyContent (cells ⟨columns, rows⟩)) =
        some (bodyContent (cells ⟨columns, others⟩)) := by
      rw [← body?_markup, ← body?_markup, h]
    rw [← readBody_bodyContent (cells ⟨columns, rows⟩), Option.some.inj hbody, readBody_bodyContent]
  · intro h
    apply String.toList_injective
    rw [toList_markup, toList_markup, h]

/-- Reading the body of a table at its tags and undoing the entities recovers every cell, whatever the
columns are and whatever stands in the rows. So tables under the same columns have the same markup exactly
if they have as many rows and show the same text in every cell. -/
theorem markup_determines_cells (columns : List Column) :
    (∀ text, unescape (escape text) = text) ∧
      (∀ rows, (body? columns (markup ⟨columns, rows⟩)).map readBody =
        some (cells ⟨columns, rows⟩)) ∧
      ∀ rows others, markup ⟨columns, rows⟩ = markup ⟨columns, others⟩ ↔
        ShowAlike columns rows others := by
  refine ⟨unescape_escape, ?_, ?_⟩
  · intro rows
    have hbody := body?_markup ⟨columns, rows⟩
    rw [hbody, Option.map_some, readBody_bodyContent]
  · intro rows others
    rw [markup_eq_iff, cells_eq_iff]

/-- A text with tags and entities of its own stands for itself. -/
example : readBody "<tr><td>&lt;/td&gt;&amp;lt;</td><td></td></tr><tr></tr>".toList =
    [["</td>&lt;", ""], []] := by cbv

end MessageInspector.Preview.Table
