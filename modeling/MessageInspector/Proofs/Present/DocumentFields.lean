import MessageInspector.Proofs.Json.WrittenMembers
import MessageInspector.Proofs.Present.Fields
/-!
# Fields of a document

A text is message info if it is an object whose last identifier names a message. The fields of its
model are then the registered keys of the text in the order of their first members, and each shows the
last value that the text gives for its key.
-/
namespace MessageInspector
open Json (ObjectText)

/-- A value that names a message. -/
inductive MessageId.Named : Json.Value → Prop
  | number (n : Json.Number) : Named (.number n)
  | text {s : String} : s ≠ "" → Named (.string s)

namespace MessageInfo
variable {text : String} {info : MessageInfo} {written : List (String × Json.Value)}

theorem ofValue?_isSome {v : Json.Value} : (MessageId.ofValue? v).isSome = true ↔ MessageId.Named v := by
  constructor
  · intro h
    cases v with
    | number n => exact .number n
    | string s =>
      refine .text ?_
      rintro rfl
      cases h
    | null => cases h
    | bool b => cases h
    | array items => cases h
    | object members => cases h
  · intro h
    cases h with
    | number n => rfl
    | text hs => simp [MessageId.ofValue?, hs]

theorem attributes_of_ofAttributes {attributes : OrderedMap Json.Value}
    (h : ofAttributes attributes = .ok info) : info.attributes = attributes := by
  rw [ofAttributes] at h
  split at h
  · cases h
  · cases h
    rfl

theorem ofAttributes_isOk {attributes : OrderedMap Json.Value} :
    (∃ info, ofAttributes attributes = .ok info) ↔
      ∃ v, attributes.get? idKey = some v ∧ MessageId.Named v := by
  rw [ofAttributes]
  cases hv : attributes.get? idKey with
  | none => simp
  | some v =>
    simp only [Option.bind_some, Option.some.injEq, exists_eq_left', ← ofValue?_isSome]
    cases MessageId.ofValue? v <;> simp

theorem ofText_of_objectText (h : ObjectText text written) :
    ofText text = ofAttributes (.ofList written) := by
  have hread := Json.readText_object_iff.mpr ⟨written, h, rfl⟩
  rw [ofText, hread]
  exact congrArg ofAttributes (OrderedMap.ofList_entries _)

theorem objectText_of_ofText (h : ofText text = .ok info) : ∃ written, ObjectText text written := by
  rw [ofText] at h
  cases hread : Json.readText text with
  | error fault =>
    rw [hread] at h
    cases h
  | ok v =>
    rw [hread] at h
    cases v with
    | object members =>
      obtain ⟨written, hwritten, -⟩ := Json.readText_object_iff.mp hread
      exact ⟨written, hwritten⟩
    | null => cases h
    | bool b => cases h
    | number n => cases h
    | string s => cases h
    | array items => cases h

/-- A text is message info exactly if it is an object whose last identifier names a message. -/
theorem ofText_isOk :
    (∃ info, ofText text = .ok info) ↔ ∃ written, ObjectText text written ∧
      ∃ v, OrderedMap.lastValue? written idKey = some v ∧ MessageId.Named v := by
  constructor
  · rintro ⟨info, h⟩
    obtain ⟨written, hwritten⟩ := objectText_of_ofText h
    rw [ofText_of_objectText hwritten] at h
    obtain ⟨v, hv, hnamed⟩ := ofAttributes_isOk.mp ⟨info, h⟩
    rw [OrderedMap.get?_ofList] at hv
    exact ⟨written, hwritten, v, hv, hnamed⟩
  · rintro ⟨written, hwritten, v, hv, hnamed⟩
    rw [ofText_of_objectText hwritten, ofAttributes_isOk, OrderedMap.get?_ofList]
    exact ⟨v, hv, hnamed⟩

end MessageInfo

namespace Present
variable {p : Presenter} {flag : Bool} {text : String} {info : MessageInfo}
  {written : List (String × Json.Value)}

/-- What a slot shows of a value, by whether it is confidential and whether confidential parts are
included. -/
inductive Shows (p : Presenter) (slot : Slot) (flag : Bool) : Json.Value → FieldContent → Prop
  | redacted {v} : slot.confidential = true → flag = false → Shows p slot flag v .redacted
  | empty : ¬ (slot.confidential = true ∧ flag = false) → Shows p slot flag .null .empty
  | html {v} : ¬ (slot.confidential = true ∧ flag = false) → v ≠ .null →
      Shows p slot flag v (.html (p.valueMarkup slot.kind v))

/-- The fields are those of the registered keys of a text with these members. -/
structure ShowsMembers (p : Presenter) (flag : Bool) (written : List (String × Json.Value))
    (model : Model) : Prop where
  slots : model.fields.map (·.slot) =
    (written.map Prod.fst).eraseDups.filter fun key => (p.slots.get? key).isSome
  contents : ∀ field ∈ model.fields, ∃ slot v, p.slots.get? field.slot = some slot ∧
    field.kind = slot.kind ∧ OrderedMap.lastValue? written field.slot = some v ∧
    Shows p slot flag v field.content
  found : ∀ name, (model.field? name).isSome = true ↔
    (p.slots.get? name).isSome = true ∧ name ∈ written.map Prod.fst

theorem shows_content (slot : Slot) (v : Json.Value) : Shows p slot flag v (p.content slot v flag) := by
  rw [Presenter.content]
  split
  · rename_i hredacted
    exact .redacted hredacted.1 hredacted.2
  · rename_i hshown
    cases v with
    | null => exact .empty hshown
    | bool b => exact .html hshown (by simp)
    | number n => exact .html hshown (by simp)
    | string s => exact .html hshown (by simp)
    | array items => exact .html hshown (by simp)
    | object members => exact .html hshown (by simp)

theorem Model.field?_isSome {model : Model} {name : String} :
    (model.field? name).isSome = true ↔ name ∈ model.fields.map (·.slot) := by
  simp only [Model.field?, List.find?_isSome, decide_eq_true_eq, List.mem_map]

theorem showsMembers_build (hattributes : info.attributes = .ofList written)
    (downloadUrl : MessageId → String) : ShowsMembers p flag written (p.build info flag downloadUrl) := by
  have hslots := p.slots_build info flag downloadUrl
  rw [hattributes, OrderedMap.keys_ofList] at hslots
  refine ⟨hslots, ?_, ?_⟩
  · intro field hfield
    obtain ⟨slot, v, hslot, hentry, heq⟩ := Presenter.slot_of_mem_build hfield
    refine ⟨slot, v, hslot, ?_, ?_, ?_⟩
    · rw [heq]
    · rw [← OrderedMap.get?_ofList, ← hattributes]
      exact OrderedMap.lookup_of_mem info.attributes.nodup hentry
    · rw [heq]
      exact shows_content slot v
  · intro name
    rw [Model.field?_isSome, hslots, List.mem_filter, List.mem_eraseDups, and_comm]

/-- Message info is an object whose last identifier names a message, and its model shows the registered
keys of the text, each once and in the order of their first members, with their last values. -/
theorem build_ofText (text : String) :
    ((∃ info, MessageInfo.ofText text = .ok info) ↔ ∃ written, ObjectText text written ∧
      ∃ v, OrderedMap.lastValue? written MessageInfo.idKey = some v ∧ MessageId.Named v) ∧
    ∀ info written, MessageInfo.ofText text = .ok info → ObjectText text written →
      ∀ (p : Presenter) (flag : Bool) (downloadUrl : MessageId → String),
        ShowsMembers p flag written (p.build info flag downloadUrl) := by
  refine ⟨MessageInfo.ofText_isOk, ?_⟩
  intro info written hinfo hwritten p flag downloadUrl
  rw [MessageInfo.ofText_of_objectText hwritten] at hinfo
  exact showsMembers_build (MessageInfo.attributes_of_ofAttributes hinfo) downloadUrl

theorem build_ofText_of_repeated :
    let text := "\x7b\"id\":null,\"state\":1, \"state\":null,\"id\":7\x7d"
    let written : List (String × Json.Value) := [("id", .null), ("state", .number (.int 1)),
      ("state", .null), ("id", .number (.int 7))]
    ObjectText text written ∧ ∃ info, MessageInfo.ofText text = .ok info ∧
      ShowsMembers .standard false written (Presenter.standard.build info false fun _ => "") := by
  intro text written
  have hlast : Json.MemberAt 126 (Utf8.ofString "\"id\":7\x7d") ("id", .number (.int 7))
      (Utf8.ofString "\x7d") :=
    .entry (t := Utf8.ofString ":7\x7d") (u := Utf8.ofString "7\x7d") (by decide +kernel)
      (by decide +kernel) (by rfl)
  have hthird : Json.MemberAt 126 (Utf8.ofString " \"state\":null,\"id\":7\x7d") ("state", .null)
      (Utf8.ofString ",\"id\":7\x7d") :=
    .entry (t := Utf8.ofString ":null,\"id\":7\x7d") (u := Utf8.ofString "null,\"id\":7\x7d")
      (by decide +kernel) (by decide +kernel) (by rfl)
  have hsecond : Json.MemberAt 126 (Utf8.ofString "\"state\":1, \"state\":null,\"id\":7\x7d")
      ("state", .number (.int 1)) (Utf8.ofString ", \"state\":null,\"id\":7\x7d") :=
    .entry (t := Utf8.ofString ":1, \"state\":null,\"id\":7\x7d")
      (u := Utf8.ofString "1, \"state\":null,\"id\":7\x7d") (by decide +kernel)
      (by decide +kernel) (by rfl)
  have hfirst : Json.MemberAt 126
      (Utf8.ofString "\"id\":null,\"state\":1, \"state\":null,\"id\":7\x7d") ("id", .null)
      (Utf8.ofString ",\"state\":1, \"state\":null,\"id\":7\x7d") :=
    .entry (t := Utf8.ofString ":null,\"state\":1, \"state\":null,\"id\":7\x7d")
      (u := Utf8.ofString "null,\"state\":1, \"state\":null,\"id\":7\x7d") (by decide +kernel)
      (by decide +kernel) (by rfl)
  have hmembers : Json.MembersAt 126
      (Utf8.ofString "\"id\":null,\"state\":1, \"state\":null,\"id\":7\x7d") written [] :=
    .some hfirst (.next (by decide +kernel) hsecond (.next (by decide +kernel) hthird
      (.next (by decide +kernel) hlast (.close (by decide +kernel)))))
  have hwritten : ObjectText text written := ⟨_, [], by decide +kernel, hmembers, rfl⟩
  obtain ⟨haccepted, hshown⟩ := build_ofText text
  obtain ⟨info, hinfo⟩ := haccepted.mpr ⟨written, hwritten, _, rfl, .number (.int 7)⟩
  exact ⟨hwritten, info, hinfo, hshown info written hinfo hwritten .standard false fun _ => ""⟩

end Present
end MessageInspector
