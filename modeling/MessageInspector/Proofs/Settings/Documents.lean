import MessageInspector.Proofs.Json.Records
import MessageInspector.Settings.Basic
/-!
# Settings documents

A settings document is an object that gives each setting at most once, in any order and among
members that nobody knows. Every such document is read, and the one that is saved is such a
document, with all settings as they are.
-/
namespace MessageInspector.Settings
open Json

def previewLimitName : String := "preview_limit"
def timeZoneName : String := "time_zone"
def utcOffsetMinutesName : String := "utc_offset_minutes"
def textPreviewRowsName : String := "text_preview_rows"

/-- The value after a key, which gives a setting that was not given before. -/
inductive FieldText : (key : String) → Draft → List UInt8 → Draft → Prop
  | previewLimit {before text d} {n : Nat} : Blank before → IntegerText text n → n < bound64 →
      d.previewLimit = none →
      FieldText previewLimitName d (before ++ text) { d with previewLimit := some n }
  | timeZone {before text d s} : Blank before → StringText text s → d.timeZone = none →
      FieldText timeZoneName d (before ++ Byte.quote :: text) { d with timeZone := some s }
  | utcOffsetMinutes {before text d z} : Blank before → IntegerText text z →
      lowest32 ≤ z ∧ z ≤ highest32 → d.utcOffsetMinutes = none →
      FieldText utcOffsetMinutesName d (before ++ text) { d with utcOffsetMinutes := some z }
  | textPreviewRows {before text d} {n : Nat} : Blank before → IntegerText text n → n < bound32 →
      d.textPreviewRows = none →
      FieldText textPreviewRowsName d (before ++ text) { d with textPreviewRows := some n }

inductive MemberText : Draft → List UInt8 → Draft → Prop
  | field {before name after text d last key} : Blank before → StringText name key →
      Blank after → FieldText key d text last →
      MemberText d (before ++ Byte.quote :: name ++ (after ++ Byte.colon :: text)) last
  | unknown {before name after text d key} : Blank before → StringText name key → Blank after →
      key ∉ [previewLimitName, timeZoneName, utcOffsetMinutesName, textPreviewRowsName] →
      AnyValue text →
      MemberText d (before ++ Byte.quote :: name ++ (after ++ Byte.colon :: text)) d

/-- The text of an object that gives these settings and no others. -/
inductive DocumentText : List UInt8 → Draft → Prop
  | object {before body after d} : Blank before →
      MembersText MemberText ⟨none, none, none, none⟩ body d → Blank after →
      DocumentText (before ++ Byte.openBrace :: body ++ after) d

def Draft.settings (d : Draft) : Settings :=
  { previewLimit := d.previewLimit.getD default.previewLimit
    timeZone := d.timeZone.getD default.timeZone
    utcOffsetMinutes := d.utcOffsetMinutes.getD default.utcOffsetMinutes
    textPreviewRows := d.textPreviewRows.getD default.textPreviewRows }

/-! ## Reading -/

theorem names_fields : record.fields.map Field.name =
    [previewLimitName, timeZoneName, utcOffsetMinutesName, textPreviewRowsName] := rfl

theorem takes_fieldText {key : String} {d last : Draft} {text : List UInt8}
    (h : FieldText key d text last) :
    ∃ field, record.fields.find? (·.name = key) = some field ∧ field.isSet d = false ∧
      (field.read d).scan.Takes text last := by
  cases h with
  | previewLimit hbefore htext hn hunset =>
    refine ⟨_, rfl, congrArg Option.isSome hunset, ?_⟩
    exact Reader.takes_map (takes_naturalBelow hbefore htext hn) _
  | timeZone hbefore htext hunset =>
    refine ⟨_, rfl, congrArg Option.isSome hunset, ?_⟩
    exact Reader.takes_map (takes_text hbefore htext) _
  | utcOffsetMinutes hbefore htext hz hunset =>
    refine ⟨_, rfl, congrArg Option.isSome hunset, ?_⟩
    exact Reader.takes_map (takes_integerBetween hbefore htext hz) _
  | textPreviewRows hbefore htext hn hunset =>
    refine ⟨_, rfl, congrArg Option.isSome hunset, ?_⟩
    exact Reader.takes_map (takes_naturalBelow hbefore htext hn) _

theorem takes_memberText {d last : Draft} {text : List UInt8} (h : MemberText d text last) :
    (member literal record.entry d).scan.Takes text last := by
  cases h with
  | field hbefore hname hafter hvalue =>
    obtain ⟨field, hfield, hunset, htakes⟩ := takes_fieldText hvalue
    exact Record.takes_known hbefore hname hafter hfield hunset htakes
  | unknown hbefore hname hafter hkey hvalue =>
    refine Record.takes_unknown hbefore hname hafter ?_ hvalue
    rw [List.find?_eq_none]
    intro field hfield heq
    obtain rfl : field.name = _ := of_decide_eq_true heq
    exact hkey (names_fields ▸ List.mem_map_of_mem hfield)

theorem ofText_of_document {text : String} {d : Draft}
    (h : DocumentText (Utf8.ofString text) d) : ofText text = .ok d.settings.clamped := by
  rw [ofText]
  generalize Utf8.ofString text = bytes at h
  cases h with
  | object hbefore hmembers hafter =>
    have hfinish : record.finish d = some d.settings := rfl
    have htakes := Record.takes_reader hbefore (fun _ _ _ => takes_memberText) hmembers hfinish
    rw [document_of_takes htakes hafter]
    rfl

/-! ## Saving -/

structure Representable (s : Settings) : Prop where
  previewLimit : s.previewLimit < bound64
  utcOffsetMinutes : lowest32 ≤ s.utcOffsetMinutes ∧ s.utcOffsetMinutes ≤ highest32
  textPreviewRows : s.textPreviewRows < bound32

def indent : List UInt8 := [0x0A, 0x20, 0x20]

theorem blank_indent : Blank indent := by
  simp only [Blank, indent, List.forall_mem_cons]
  exact ⟨rfl, rfl, rfl, nofun⟩

theorem blank_newline : Blank [0x0A] := by
  simp only [Blank, List.forall_mem_cons]
  exact ⟨rfl, nofun⟩

theorem blank_space : Blank [0x20] := by
  simp only [Blank, List.forall_mem_cons]
  exact ⟨rfl, nofun⟩

def savedMember (m : String × Value) : List UInt8 :=
  indent ++ Utf8.ofString (quote m.1) ++ ([] ++ Byte.colon :: ([0x20] ++ Utf8.ofString m.2.compact))

theorem ofString_document (s : Settings) :
    Utf8.ofString s.document = [] ++ Byte.openBrace ::
      (savedMember (previewLimitName, .number (.int s.previewLimit)) ++
        ([] ++ Byte.comma :: (savedMember (timeZoneName, .string s.timeZone) ++
          ([] ++ Byte.comma :: (savedMember (utcOffsetMinutesName,
              .number (.int s.utcOffsetMinutes)) ++
            ([] ++ Byte.comma :: (savedMember (textPreviewRowsName,
                .number (.int s.textPreviewRows)) ++
              ([0x0A] ++ [Byte.closeBrace])))))))) ++ [] := by
  have hopen : Utf8.ofString "\x7b\n" = [Byte.openBrace, 0x0A] := rfl
  have hblanks : Utf8.ofString "  " = [0x20, 0x20] := rfl
  have hcolon : Utf8.ofString ": " = [Byte.colon, 0x20] := rfl
  have hcomma : Utf8.ofString ",\n" = [Byte.comma, 0x0A] := rfl
  have hclose : Utf8.ofString "\n\x7d" = [0x0A, Byte.closeBrace] := rfl
  simp [document, prettyRecord, Utf8.ofString_append, members, savedMember, indent, hopen, hblanks,
    hcolon, hcomma, hclose, previewLimitName, timeZoneName, utcOffsetMinutesName,
    textPreviewRowsName]

theorem memberText_saved {key : String} {v : Value} {d last : Draft}
    (h : FieldText key d ([0x20] ++ Utf8.ofString v.compact) last) :
    MemberText d (savedMember (key, v)) last := by
  obtain ⟨name, hquote, hname⟩ := ofString_quote key
  rw [savedMember, hquote]
  exact .field blank_indent hname blank_nil h

section Saved
variable {d : Draft}

theorem memberText_previewLimit {n : Nat} (hn : n < bound64) (hunset : d.previewLimit = none) :
    MemberText d (savedMember (previewLimitName, .number (.int n)))
      { d with previewLimit := some n } := by
  have htext : IntegerText (Utf8.ofString (Number.int n).text) n :=
    integerText_text (by simp only [largestUnsigned, bound64] at hn ⊢; omega)
  exact memberText_saved (.previewLimit blank_space htext hn hunset)

theorem memberText_timeZone (s : String) (hunset : d.timeZone = none) :
    MemberText d (savedMember (timeZoneName, .string s)) { d with timeZone := some s } := by
  obtain ⟨text, htext, hs⟩ := ofString_quote s
  apply memberText_saved
  rw [Value.compact, htext]
  exact .timeZone blank_space hs hunset

theorem memberText_utcOffsetMinutes {z : Int} (hz : lowest32 ≤ z ∧ z ≤ highest32)
    (hunset : d.utcOffsetMinutes = none) :
    MemberText d (savedMember (utcOffsetMinutesName, .number (.int z)))
      { d with utcOffsetMinutes := some z } := by
  have htext : IntegerText (Utf8.ofString (Number.int z).text) z := by
    apply integerText_text
    simp only [lowest32, highest32, largestNegated, largestUnsigned] at hz ⊢
    omega
  exact memberText_saved (.utcOffsetMinutes blank_space htext hz hunset)

theorem memberText_textPreviewRows {n : Nat} (hn : n < bound32)
    (hunset : d.textPreviewRows = none) :
    MemberText d (savedMember (textPreviewRowsName, .number (.int n)))
      { d with textPreviewRows := some n } := by
  have htext : IntegerText (Utf8.ofString (Number.int n).text) n :=
    integerText_text (by simp only [largestUnsigned, bound32] at hn ⊢; omega)
  exact memberText_saved (.textPreviewRows blank_space htext hn hunset)

end Saved

theorem documentText_document {s : Settings} (h : s.Representable) :
    DocumentText (Utf8.ofString s.document)
      ⟨some s.previewLimit, some s.timeZone, some s.utcOffsetMinutes, some s.textPreviewRows⟩ := by
  rw [ofString_document]
  refine .object blank_nil ?_ blank_nil
  refine .some (memberText_previewLimit h.previewLimit rfl) ?_
  refine .next blank_nil (memberText_timeZone s.timeZone rfl) ?_
  refine .next blank_nil (memberText_utcOffsetMinutes h.utcOffsetMinutes rfl) ?_
  refine .next blank_nil (memberText_textPreviewRows h.textPreviewRows rfl) ?_
  exact .close blank_newline

theorem ofText_document {s : Settings} (h : s.Representable) :
    ofText s.document = .ok s.clamped :=
  ofText_of_document (documentText_document h)

end MessageInspector.Settings
