import MessageInspector.Proofs.Settings.Documents
import MessageInspector.Proofs.Settings.Ranges
import MessageInspector.Proofs.Text.Decimals
/-!
# Layers of settings

A setting comes from the environment if its variable is valid, else from the document, else from the
defaults, and is then moved into its range. The range of the offset is within that of offsets from
UTC, so times under a zone that nobody knows are shown at the offset that was set.
-/
namespace MessageInspector.Settings
open Json

/-! ## Variables -/

def LimitText (text : String) (n : Nat) : Prop :=
  Decimal.UnsignedText text.toList n ∧ n < 18446744073709551616

def OffsetText (text : String) (z : Int) : Prop :=
  Decimal.SignedText text.toList z ∧ -2147483648 ≤ z ∧ z ≤ 2147483647

/-- The variable gives this zone name, which is not blank. -/
def ZoneText (text zone : String) : Prop := zone = Text.trim text ∧ zone ≠ ""

theorem previewLimitOf_eq_some {text : String} {n : Nat} :
    previewLimitOf text = some n ↔ LimitText text n := by
  simp only [previewLimitOf, Option.filter_eq_some_iff, decide_eq_true_eq,
    Decimal.unsigned?_eq_some]
  exact Iff.rfl

theorem utcOffsetOf_eq_some {text : String} {z : Int} :
    utcOffsetOf text = some z ↔ OffsetText text z := by
  simp only [utcOffsetOf, Option.filter_eq_some_iff, decide_eq_true_eq, Decimal.signed?_eq_some]
  exact Iff.rfl

theorem timeZoneOf_eq_some {text zone : String} :
    timeZoneOf text = some zone ↔ ZoneText text zone := by
  rw [timeZoneOf]
  split
  · rename_i hblank
    constructor
    · intro h
      cases h
    · rintro ⟨rfl, hzone⟩
      exact absurd hblank hzone
  · rename_i hzone
    constructor
    · intro h
      cases h
      exact ⟨rfl, hzone⟩
    · rintro ⟨rfl, -⟩
      rfl

/-! ## Layers -/

/-- The value of the variable if it is set and valid, else that of the document, else the preset. -/
inductive Layered {α : Type} (Valid : String → α → Prop) (found : Option String)
    (given : Option α) (preset : α) : α → Prop
  | environment {text a} : found = some text → Valid text a →
      Layered Valid found given preset a
  | document {a} : (∀ text b, found = some text → ¬ Valid text b) → given = some a →
      Layered Valid found given preset a
  | preset : (∀ text b, found = some text → ¬ Valid text b) → given = none →
      Layered Valid found given preset preset

theorem layered_getD {α : Type} {Valid : String → α → Prop} {valid? : String → Option α}
    (hvalid : ∀ {text a}, valid? text = some a ↔ Valid text a) (found : Option String)
    (given : Option α) (preset : α) :
    Layered Valid found given preset
      ((found.bind valid?).getD (given.getD preset)) := by
  cases h : found.bind valid? with
  | some a =>
    obtain ⟨text, htext, ha⟩ := Option.bind_eq_some_iff.mp h
    exact .environment htext (hvalid.mp ha)
  | none =>
    have hinvalid : ∀ text b, found = some text → ¬ Valid text b := by
      rintro text b rfl hb
      rw [Option.bind_some, hvalid.mpr hb] at h
      cases h
    cases given with
    | some a => exact .document hinvalid rfl
    | none => exact .preset hinvalid rfl

section Environment
variable (s : Settings) (environment : Environment)

/-- Moving a value into its range before it is overridden makes no difference. -/
theorem previewLimit_withEnvironment :
    (s.clamped.withEnvironment environment).previewLimit =
      max 1 (min (((environment previewLimitVariable).bind previewLimitOf).getD s.previewLimit)
        1048576) := by
  cases h : (environment previewLimitVariable).bind previewLimitOf with
  | some n => simp only [withEnvironment, clamped, h, Option.getD_some, largestPreviewLimit]
  | none =>
    simp only [withEnvironment, clamped, h, Option.getD_none, largestPreviewLimit]
    omega

theorem utcOffsetMinutes_withEnvironment :
    (s.clamped.withEnvironment environment).utcOffsetMinutes =
      max (-840) (min (((environment utcOffsetVariable).bind utcOffsetOf).getD s.utcOffsetMinutes)
        840) := by
  cases h : (environment utcOffsetVariable).bind utcOffsetOf with
  | some z => simp only [withEnvironment, clamped, h, Option.getD_some, largestOffsetMinutes]; rfl
  | none =>
    simp only [withEnvironment, clamped, h, Option.getD_none, largestOffsetMinutes]
    omega

theorem textPreviewRows_withEnvironment :
    (s.clamped.withEnvironment environment).textPreviewRows = max 1 s.textPreviewRows := by
  simp only [withEnvironment, clamped]
  omega

theorem inRange_withEnvironment : (s.withEnvironment environment).InRange := inRange_clamped _

theorem withEnvironment_again :
    (s.withEnvironment environment).withEnvironment environment =
      s.withEnvironment environment := by
  simp only [withEnvironment, clamped, mk.injEq]
  refine ⟨?_, ?_, ?_, ?_⟩
  · cases (environment previewLimitVariable).bind previewLimitOf with
    | some n => rfl
    | none =>
      simp only [Option.getD_none]
      omega
  · cases (environment timeZoneVariable).bind timeZoneOf <;> rfl
  · cases (environment utcOffsetVariable).bind utcOffsetOf with
    | some z => rfl
    | none =>
      simp only [Option.getD_none]
      omega
  · omega

end Environment

section Zones
variable {s : Settings} (h : s.InRange) (named? : String → Option Time.Zone)
include h

theorem previewLimit_presenter : (s.presenter named?).previewLimit = s.previewLimit :=
  Nat.max_eq_left h.previewLimit.1

/-- No offset in range is as long as a day. -/
theorem offsetAt_of_unknown (unknown : named? (Text.trim s.timeZone) = none) (second : Int) :
    (s.preferences named?).offsetAt second = s.utcOffsetMinutes * 60 := by
  have hoffset := h.utcOffsetMinutes
  have hday : -Time.secondsPerDay < s.utcOffsetMinutes * 60 ∧
      s.utcOffsetMinutes * 60 < Time.secondsPerDay := by
    simp only [Time.secondsPerDay]
    omega
  rw [preferences, Time.Preferences.ofZone, Time.Preferences.offsetAt, unknown]
  exact if_pos hday

end Zones

/-- Each setting is that of the first layer that gives it, moved into its range. No variable gives
the rows. -/
structure Combines (d : Draft) (environment : Environment) (s : Settings) : Prop where
  previewLimit : ∃ n, s.previewLimit = max 1 (min n 1048576) ∧
    Layered LimitText (environment previewLimitVariable) d.previewLimit default.previewLimit n
  timeZone :
    Layered ZoneText (environment timeZoneVariable) d.timeZone default.timeZone s.timeZone
  utcOffsetMinutes : ∃ z, s.utcOffsetMinutes = max (-840) (min z 840) ∧
    Layered OffsetText (environment utcOffsetVariable) d.utcOffsetMinutes
      default.utcOffsetMinutes z
  textPreviewRows : s.textPreviewRows = max 1 (d.textPreviewRows.getD default.textPreviewRows)

theorem combines_withEnvironment (d : Draft) (environment : Environment) :
    Combines d environment (d.settings.clamped.withEnvironment environment) where
  previewLimit :=
    ⟨_, previewLimit_withEnvironment _ _, layered_getD previewLimitOf_eq_some _ _ _⟩
  timeZone := layered_getD timeZoneOf_eq_some _ _ _
  utcOffsetMinutes :=
    ⟨_, utcOffsetMinutes_withEnvironment _ _, layered_getD utcOffsetOf_eq_some _ _ _⟩
  textPreviewRows := textPreviewRows_withEnvironment _ _

/-- Every document is read, and under every environment its settings are combined with it field by
field. They are in range, the environment has nothing more to change, and whichever zones are known,
the presenter and the times of an unknown zone follow the settings as they are. -/
theorem withEnvironment_ofDocument {text : String} {d : Draft}
    (h : DocumentText (Utf8.ofString text) d) (environment : Environment) :
    ∃ s, ofText text = .ok s ∧
      let last := s.withEnvironment environment
      Combines d environment last ∧ last.InRange ∧ last.withEnvironment environment = last ∧
        ∀ named? : String → Option Time.Zone,
          (last.presenter named?).previewLimit = last.previewLimit ∧
          (named? (Text.trim last.timeZone) = none → ∀ second,
            (last.preferences named?).offsetAt second = last.utcOffsetMinutes * 60) := by
  have hrange := d.settings.clamped.inRange_withEnvironment environment
  refine ⟨_, ofText_of_document h, combines_withEnvironment d environment, hrange,
    withEnvironment_again _ _, ?_⟩
  intro named?
  exact ⟨previewLimit_presenter hrange named?, offsetAt_of_unknown hrange named?⟩

theorem withEnvironment_ofDocument_of_mixed :
    let text := "\x7b\"utc_offset_minutes\": -5000, \"x\":[1e9,\x7b\x7d]," ++
      "\"time_zone\":\" Mars \"\x7d\n"
    let d : Draft := ⟨none, some " Mars ", some (-5000), none⟩
    let environment : Environment := fun name =>
      if name = previewLimitVariable then some "+0"
      else if name = utcOffsetVariable then some "99999999999" else none
    let named? : String → Option Time.Zone := Time.ZoneTable.named?
    DocumentText (Utf8.ofString text) d ∧ ∃ s, ofText text = .ok s ∧
      let last := s.withEnvironment environment
      Combines d environment last ∧ last.InRange ∧ last.withEnvironment environment = last ∧
        (last.presenter named?).previewLimit = last.previewLimit ∧
        named? (Text.trim last.timeZone) = none ∧
        ∀ second, (last.preferences named?).offsetAt second = last.utcOffsetMinutes * 60 := by
  intro text d environment named?
  have hone : WholeText [0x31] := ⟨⟨by decide, List.all_eq_true.mp rfl⟩, fun _ => rfl⟩
  have hnine : Digits [0x39] := ⟨by decide, List.all_eq_true.mp rfl⟩
  have hexponent : ExponentText (0x65 :: ([] ++ [0x39])) := .some rfl List.mem_cons_self hnine
  have hnumber : NumberText [0x31, 0x65, 0x39] := .positive hone .none hexponent
  have hfirst : SkippedValue 1 [0x31, 0x65, 0x39] () :=
    .number blank_nil (.inr (by decide)) hnumber
  have hsecond : SkippedValue 1 [Byte.openBrace, Byte.closeBrace] () :=
    .object blank_nil (.none blank_nil)
  have hitems : ItemsText (SkippedValue 1) _ [(), ()] :=
    .some hfirst (.next blank_nil hsecond (.close blank_nil))
  have hvalue : AnyValue (Utf8.ofString "[1e9,\x7b\x7d]") := ⟨2, .array blank_nil ⟨_, hitems⟩⟩
  have hfive : WholeText [0x35, 0x30, 0x30, 0x30] :=
    ⟨⟨by decide, List.all_eq_true.mp rfl⟩, by decide⟩
  have hoffset : IntegerText (Utf8.ofString "-5000") (-5000) :=
    .negative hfive (by decide) (by decide)
  have htext : Utf8.ofString text = [] ++ Byte.openBrace ::
      ([] ++ Byte.quote :: (Utf8.ofString utcOffsetMinutesName ++ [Byte.quote]) ++
          ([] ++ Byte.colon :: ([0x20] ++ Utf8.ofString "-5000")) ++
        ([] ++ Byte.comma :: ([0x20] ++ Byte.quote :: (Utf8.ofString "x" ++ [Byte.quote]) ++
            ([] ++ Byte.colon :: Utf8.ofString "[1e9,\x7b\x7d]") ++
          ([] ++ Byte.comma :: ([] ++ Byte.quote :: (Utf8.ofString timeZoneName ++ [Byte.quote]) ++
              ([] ++ Byte.colon ::
                ([] ++ Byte.quote :: (Utf8.ofString " Mars " ++ [Byte.quote]))) ++
            ([] ++ [Byte.closeBrace])))))) ++ [0x0A] := by
    decide +kernel
  have hdocument : DocumentText (Utf8.ofString text) d := by
    rw [htext]
    refine .object blank_nil ?_ blank_newline
    refine .some (.field blank_nil (stringText_plain rfl) blank_nil
      (.utcOffsetMinutes blank_space hoffset (by decide) rfl)) ?_
    refine .next blank_nil (.unknown blank_space (stringText_plain rfl) blank_nil (by decide)
      hvalue) ?_
    refine .next blank_nil (.field blank_nil (stringText_plain rfl) blank_nil
      (.timeZone blank_nil (stringText_plain rfl) rfl)) ?_
    exact .close blank_nil
  obtain ⟨s, hs, hcombines, hrange, hagain, hzones⟩ :=
    withEnvironment_ofDocument hdocument environment
  obtain ⟨hpresenter, hunknown⟩ := hzones named?
  have hzone : (s.withEnvironment environment).timeZone = " Mars " := by
    have hunset : environment timeZoneVariable = none := by decide
    have hlayered := hcombines.timeZone
    generalize (s.withEnvironment environment).timeZone = zone at hlayered ⊢
    cases hlayered with
    | environment hset => cases hunset.symm.trans hset
    | document _ hgiven => exact (Option.some.inj hgiven).symm
    | preset _ hgiven => cases hgiven
  have hnone : named? (Text.trim (s.withEnvironment environment).timeZone) = none := by
    rw [hzone]
    decide +kernel
  exact ⟨hdocument, s, hs, hcombines, hrange, hagain, hpresenter, hnone, hunknown hnone⟩

end MessageInspector.Settings
