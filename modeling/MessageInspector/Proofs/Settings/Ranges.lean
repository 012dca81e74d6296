import MessageInspector.Settings.Environment
/-!
# Ranges of settings

Moving settings into their ranges changes exactly those that are outside, so doing it again changes
nothing. Whatever layers they come from, settings end up in range.
-/
namespace MessageInspector.Settings

structure InRange (s : Settings) : Prop where
  previewLimit : 1 ≤ s.previewLimit ∧ s.previewLimit ≤ 1048576
  utcOffsetMinutes : -840 ≤ s.utcOffsetMinutes ∧ s.utcOffsetMinutes ≤ 840
  textPreviewRows : 1 ≤ s.textPreviewRows

theorem inRange_clamped (s : Settings) : s.clamped.InRange := by
  refine ⟨?_, ?_, ?_⟩
  · simp only [clamped, largestPreviewLimit]
    omega
  · simp only [clamped, largestOffsetMinutes]
    omega
  · simp only [clamped]
    omega

theorem clamped_of_inRange {s : Settings} (h : s.InRange) : s.clamped = s := by
  obtain ⟨limit, zone, offset, rows⟩ := s
  obtain ⟨hlimit, hoffset, hrows⟩ := h
  simp only at hlimit hoffset hrows
  simp only [clamped, largestPreviewLimit, largestOffsetMinutes, mk.injEq, true_and]
  omega

theorem clamped_clamped (s : Settings) : s.clamped.clamped = s.clamped :=
  clamped_of_inRange s.inRange_clamped

theorem inRange_default : default.InRange := ⟨by decide, by decide, by decide⟩

def noVariables : Environment := fun _ => none

theorem withEnvironment_noVariables (s : Settings) : s.withEnvironment noVariables = s.clamped :=
  rfl

end MessageInspector.Settings
