import MessageInspector.Present.Model
/-!
# Redaction

A model built without confidential parts shows nothing of them: fields of confidential slots hold
placeholders, and there is neither a link to the content nor a preview.
-/
namespace MessageInspector.Present

theorem SlotRegistry.name_of_get {registry : SlotRegistry} {name : String} {slot : Slot}
    (h : registry.get? name = some slot) : slot.name = name := by
  obtain ⟨before, after, hentries, -⟩ := List.lookup_eq_some_iff.mp h
  have hmem : (name, slot) ∈ registry.slots.entries := by
    rw [hentries]
    exact List.mem_append_right _ List.mem_cons_self
  exact registry.named _ hmem

namespace Presenter
variable {p : Presenter} {info : MessageInfo} {includesConfidential : Bool}
  {downloadUrl : MessageId → String} {field : Field}

theorem slot_of_mem_build (h : field ∈ (p.build info includesConfidential downloadUrl).fields) :
    ∃ slot value, p.slots.get? field.slot = some slot ∧
      (field.slot, value) ∈ info.attributes.entries ∧
      field = ⟨slot.name, slot.kind, p.content slot value includesConfidential⟩ := by
  obtain ⟨⟨name, value⟩, hentry, hfield⟩ := List.mem_filterMap.mp h
  obtain ⟨slot, hslot, rfl⟩ := Option.map_eq_some_iff.mp hfield
  have hname := SlotRegistry.name_of_get hslot
  refine ⟨slot, value, ?_, ?_, rfl⟩
  · simp only [hname]
    exact hslot
  · simp only [hname]
    exact hentry

theorem content_of_confidential {slot : Slot} (h : slot.confidential = true) (value : Json.Value) :
    p.content slot value false = .redacted := by
  have hboth : slot.confidential = true ∧ (false = false) := ⟨h, rfl⟩
  rw [content, if_pos hboth]

/-- In a redacted model, a confidential slot shows a placeholder without any markup. -/
theorem redacted_of_mem_build (h : field ∈ (p.build info false downloadUrl).fields) :
    ∃ slot, p.slots.get? field.slot = some slot ∧
      (slot.confidential = true → field.content = .redacted ∧ field.html = "") := by
  obtain ⟨slot, value, hslot, -, hfield⟩ := slot_of_mem_build h
  refine ⟨slot, hslot, ?_⟩
  intro confidential
  have hcontent : field.content = .redacted := by
    rw [hfield]
    exact content_of_confidential confidential value
  refine ⟨hcontent, ?_⟩
  rw [Field.html, hcontent]

end Presenter
end MessageInspector.Present
