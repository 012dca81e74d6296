import Mathlib.Data.List.Forall2
import MessageInspector.Proofs.Present.Redaction
/-!
# Secret values do not show

A redacted model depends on the message's identifier and on its public attributes alone. Messages
that differ in the values of confidential slots, in attributes without a slot and in where their
content can be downloaded have one redacted model.
-/
namespace MessageInspector.Present

namespace SlotRegistry

def registered (registry : SlotRegistry) (info : MessageInfo) : List (String × Json.Value) :=
  info.attributes.entries.filter fun entry => (registry.get? entry.1).isSome

/-- Two attributes have one name, and one value unless their slot is confidential. -/
def AgreeInPublic (registry : SlotRegistry) (a b : String × Json.Value) : Prop :=
  a.1 = b.1 ∧ ∀ slot, registry.get? a.1 = some slot → slot.confidential = false → a.2 = b.2

/-- Two messages differ in secrets at most. -/
structure Indistinguishable (registry : SlotRegistry) (info other : MessageInfo) : Prop where
  id : info.id = other.id
  attributes : List.Forall₂ registry.AgreeInPublic (registry.registered info)
    (registry.registered other)

end SlotRegistry

namespace Presenter
variable {p : Presenter}

theorem field_of_unregistered {flag : Bool} {entry : String × Json.Value}
    (h : (p.slots.get? entry.1).isSome = false) : p.field? flag entry = none := by
  have hnone : p.slots.get? entry.1 = none := by simpa using h
  rw [field?, hnone]
  rfl

theorem fields_eq_registered (info : MessageInfo) (flag : Bool) (url : MessageId → String) :
    (p.build info flag url).fields = (p.slots.registered info).filterMap (p.field? flag) := by
  rw [SlotRegistry.registered, List.filterMap_filter]
  apply List.filterMap_congr
  intro entry _
  cases h : (p.slots.get? entry.1).isSome with
  | true => rfl
  | false => exact field_of_unregistered h

theorem field_eq_of_agree {a b : String × Json.Value} (h : p.slots.AgreeInPublic a b) :
    p.field? false a = p.field? false b := by
  obtain ⟨name, value⟩ := a
  obtain ⟨name', other⟩ := b
  obtain ⟨rfl, hvalue⟩ : name = name' ∧ _ := h
  simp only [field?]
  cases hslot : p.slots.get? name with
  | none => rfl
  | some slot =>
    cases hc : slot.confidential with
    | true =>
      simp only [Option.map_some, content_of_confidential hc]
    | false =>
      obtain rfl : value = other := hvalue slot hslot hc
      rfl

theorem fields_eq_of_agree {as bs : List (String × Json.Value)}
    (h : List.Forall₂ p.slots.AgreeInPublic as bs) :
    as.filterMap (p.field? false) = bs.filterMap (p.field? false) := by
  induction h with
  | nil => rfl
  | cons hab _ ih => rw [List.filterMap_cons, List.filterMap_cons, field_eq_of_agree hab, ih]

/-- Messages that differ in secrets at most are shown alike once they are redacted. -/
theorem build_redacted_eq (p : Presenter) {info other : MessageInfo}
    (h : p.slots.Indistinguishable info other) (downloadUrl downloadUrl' : MessageId → String) :
    p.build info false downloadUrl = p.build other false downloadUrl' := by
  have hfields : (p.build info false downloadUrl).fields =
      (p.build other false downloadUrl').fields := by
    rw [fields_eq_registered, fields_eq_registered]
    exact fields_eq_of_agree h.attributes
  calc p.build info false downloadUrl
      = ⟨info.id, (p.build info false downloadUrl).fields, false, none, .hidden⟩ := rfl
    _ = ⟨other.id, (p.build other false downloadUrl').fields, false, none, .hidden⟩ := by
      rw [hfields, h.id]
    _ = p.build other false downloadUrl' := rfl

theorem build_redacted_eq_of_headers :
    let secretive : MessageInfo := ⟨⟨⟨"7"⟩, 3, some "text/plain"⟩, .ofList
      [("id", .number (.int 7)), ("route", .string "eu"), ("userId", .string "ann"),
        ("headers", .object [("token", .string "s3cret"), ("2", .null)])]⟩
    let plain : MessageInfo := ⟨⟨⟨"7"⟩, 0, none⟩, .ofList
      [("id", .number (.int 7)), ("userId", .string "ann"), ("headers", .null),
        ("trace", .bool true)]⟩
    standard.slots.Indistinguishable secretive plain ∧
      standard.build secretive false (fun _ => "http://broker/7") =
        standard.build plain false (fun _ => "") := by
  intro secretive plain
  have same : standard.slots.Indistinguishable secretive plain := by
    refine ⟨rfl, .cons ⟨rfl, ?_⟩ (.cons ⟨rfl, ?_⟩ (.cons ⟨rfl, ?_⟩ .nil))⟩
    · intro slot _ _
      rfl
    · intro slot _ _
      rfl
    · intro slot hslot hpublic
      obtain rfl : (⟨"headers", .map, true⟩ : Slot) = slot := Option.some.inj hslot
      cases hpublic
  exact ⟨same, build_redacted_eq standard same _ _⟩

end Presenter
end MessageInspector.Present
