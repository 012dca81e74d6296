import MessageInspector.Json.Record
import MessageInspector.Proofs.Json.Skipping
/-!
# Texts of records

A record in its object form may give its fields in any order, each at most once, among members that
nobody knows. What is read is the draft to which the known members lead.
-/
namespace MessageInspector.Json
open Scan
variable {α δ : Type}

theorem skipBlanks_append {before text : List UInt8} (hbefore : Blank before) {b : UInt8}
    (hb : Byte.isBlank b = false) (rest : List UInt8) :
    skipBlanks (before ++ b :: text ++ rest) = b :: (text ++ rest) := by
  rw [List.append_assoc, List.cons_append]
  exact skipBlanks_append_cons hbefore hb _

section Scalars

def fitting (fits : Int → Bool) : Number → Scan Int
  | .int z => if fits z then done z else fail .mismatch
  | .real _ => fail .mismatch

theorem scan_integerIn (fits : Int → Bool) {s more : List UInt8} {b : UInt8}
    (h : skipBlanks s = b :: more) (hb : b = Byte.minus ∨ Byte.isDigit b = true) :
    (integerIn fits).scan s = (Reader.scan numeral).andThen (fitting fits) s := by
  rw [Reader.scan_andThen, Reader.scan_eq, integerIn, next_of_visible h]
  simp only [if_pos hb]
  cases numeral s with
  | error fault => rfl
  | ok n =>
    simp only
    cases n.value with
    | real x => rfl
    | int z => by_cases hz : fits z = true <;> simp [fitting, hz, done, fail, Taken.map]

variable {before text : List UInt8} (hbefore : Blank before)
include hbefore

theorem takes_integerIn {fits : Int → Bool} {z : Int} (h : IntegerText text z)
    (hfits : fits z = true) : (integerIn fits).scan.Takes (before ++ text) z := by
  intro rest stops
  have hnumeral := takes_numeral hbefore h rest stops
  obtain ⟨b, more, rfl, hb⟩ := h.head
  rw [scan_integerIn fits (skipBlanks_append hbefore (isBlank_of_number hb) rest) hb,
    andThen_of_ok hnumeral, fitting, if_pos hfits]
  rfl

theorem takes_naturalBelow {bound n : Nat} (h : IntegerText text n) (hn : n < bound) :
    (naturalBelow bound).scan.Takes (before ++ text) n := by
  have hfits : (decide ((0 : Int) ≤ n) && decide ((n : Int) < bound)) = true := by
    simp only [Bool.and_eq_true, decide_eq_true_eq]
    omega
  exact Reader.takes_map (takes_integerIn hbefore h hfits) Int.toNat

theorem takes_integerBetween {lowest highest z : Int} (h : IntegerText text z)
    (hz : lowest ≤ z ∧ z ≤ highest) :
    (integerBetween lowest highest).scan.Takes (before ++ text) z := by
  have hfits : (decide (lowest ≤ z) && decide (z ≤ highest)) = true := by
    simp only [Bool.and_eq_true, decide_eq_true_eq]
    exact hz
  exact takes_integerIn hbefore h hfits

theorem takes_text {s : String} (h : StringText text s) :
    (Reader.scan Json.text).Takes (before ++ Byte.quote :: text) s := by
  intro rest stops
  have htaken := takes_literal hbefore h rest stops
  have hvisible : skipBlanks (before ++ Byte.quote :: text ++ rest) =
      Byte.quote :: (text ++ rest) :=
    skipBlanks_append hbefore (by decide) rest
  rw [Reader.scan_eq] at htaken ⊢
  rw [Json.text, next_of_visible hvisible]
  exact htaken

end Scalars

namespace Record
variable {record : Record δ α} {draft last : δ} {before name after text : List UInt8} {key : String}

theorem takes_known (hbefore : Blank before) (hname : StringText name key) (hafter : Blank after)
    {field : Field δ} (hfield : record.fields.find? (·.name = key) = some field)
    (hset : field.isSet draft = false) (hvalue : (field.read draft).scan.Takes text last) :
    (member literal record.entry draft).scan.Takes
      (before ++ Byte.quote :: name ++ (after ++ Byte.colon :: text)) last := by
  have hentry : record.entry draft key = afterColon (field.read draft) := by
    rw [entry, hfield]
    simp [hset]
  apply takes_member hbefore (takes_literal hbefore hname)
  · rw [hentry]
    exact takes_afterColon hafter hvalue
  · exact fun rest _ => stops_colon hafter _ rest

theorem takes_unknown (hbefore : Blank before) (hname : StringText name key)
    (hafter : Blank after) (hkey : record.fields.find? (·.name = key) = none)
    (hvalue : AnyValue text) :
    (member literal record.entry draft).scan.Takes
      (before ++ Byte.quote :: name ++ (after ++ Byte.colon :: text)) draft := by
  have hentry : record.entry draft key = afterColon (skip.map fun _ => draft) := by
    rw [entry, hkey]
  apply takes_member hbefore (takes_literal hbefore hname)
  · rw [hentry]
    exact takes_afterColon hafter (Reader.takes_map (takes_skip hvalue) _)
  · exact fun rest _ => stops_colon hafter _ rest

theorem scan_reader (record : Record δ α) {s rest : List UInt8}
    (h : skipBlanks s = Byte.openBrace :: rest) :
    record.reader.scan s =
      (members literal record.entry record.blank).scan.andThen
        (fun draft => match record.finish draft with
          | some a => done a
          | none => fail .mismatch) rest := by
  have hbrace : ¬ Byte.openBrace = Byte.openBracket := by decide
  rw [Reader.scan_andThen, Reader.scan_eq, reader, next_of_visible h]
  simp only [if_neg hbrace, or_true, if_true]
  cases members literal record.entry record.blank rest with
  | error fault => rfl
  | ok x =>
    simp only
    cases record.finish x.value <;> rfl

/-- An object whose members lead to a complete draft reads as its record. -/
theorem takes_reader {form : δ → List UInt8 → δ → Prop} (hbefore : Blank before)
    (takes : ∀ draft text last, form draft text last →
      (member literal record.entry draft).scan.Takes text last)
    (h : MembersText form record.blank text last) {a : α} (hfinish : record.finish last = some a) :
    record.reader.scan.Takes (before ++ Byte.openBrace :: text) a := by
  intro rest stops
  rw [scan_reader record (skipBlanks_append hbefore (by decide) rest),
    andThen_of_ok (takes_members takes h rest stops), hfinish]
  rfl

end Record
end MessageInspector.Json
