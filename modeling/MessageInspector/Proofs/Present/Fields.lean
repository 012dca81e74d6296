import MessageInspector.Proofs.Present.Redaction
/-!
# The fields of a model

A model has one field for each attribute that has a slot, in the order of the attributes. As no
attribute is reported twice, no slot is filled twice.
-/
namespace MessageInspector.Present.Presenter
variable (p : Presenter) (info : MessageInfo) (includesConfidential : Bool)
  (downloadUrl : MessageId → String)

theorem slots_build :
    (p.build info includesConfidential downloadUrl).fields.map (·.slot) =
      info.attributes.keys.filter fun name => (p.slots.get? name).isSome := by
  simp only [build, OrderedMap.keys]
  induction info.attributes.entries with
  | nil => rfl
  | cons entry rest ih =>
    cases h : p.slots.get? entry.1 with
    | none => simp [field?, h, ih]
    | some slot => simp [field?, h, ih, SlotRegistry.name_of_get h]

theorem nodup_slots_build :
    ((p.build info includesConfidential downloadUrl).fields.map (·.slot)).Nodup := by
  rw [slots_build]
  exact info.attributes.nodup.filter _

end MessageInspector.Present.Presenter
