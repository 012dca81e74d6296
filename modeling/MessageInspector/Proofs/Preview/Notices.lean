import MessageInspector.Proofs.Content.Decoding
import MessageInspector.Preview.Content
/-!
# Notices of a preview

The notice of a preview is worded twice: for the plan, out of the limit, and for the preview itself,
out of the bytes that it counts as shown. Both say the same, and the wording tells whether the limit
leaves anything out.
-/
namespace MessageInspector.Preview

def partNotice (shown totalBytes : Nat) : String :=
  "showing the first " ++ toString shown ++ " of " ++ toString totalBytes ++ " bytes"

def wholeNotice (totalBytes : Nat) : String := "showing all " ++ toString totalBytes ++ " bytes"

theorem notice_of_lt {limit totalBytes : Nat} (h : limit < totalBytes) :
    notice limit totalBytes = partNotice limit totalBytes := if_pos h

theorem notice_of_le {limit totalBytes : Nat} (h : totalBytes ≤ limit) :
    notice limit totalBytes = wholeNotice totalBytes := if_neg (Nat.not_lt.mpr h)

/-- No numbers make the two wordings one: they part where one says "the" and the other "all". -/
theorem partNotice_ne_wholeNotice (shown totalBytes whole : Nat) :
    partNotice shown totalBytes ≠ wholeNotice whole := by
  have hpart : (partNotice shown totalBytes).toList[8]? = some 't' := by
    unfold partNotice
    simp only [String.append_assoc]
    rw [String.toList_append, List.getElem?_append_left (by decide)]
    rfl
  have hwhole : (wholeNotice whole).toList[8]? = some 'a' := by
    unfold wholeNotice
    simp only [String.append_assoc]
    rw [String.toList_append, List.getElem?_append_left (by decide)]
    rfl
  intro h
  rw [h, hwhole] at hpart
  exact absurd hpart (by decide)

theorem notice_min (limit totalBytes : Nat) :
    notice (min totalBytes limit) totalBytes = notice limit totalBytes := by
  rcases Nat.lt_or_ge limit totalBytes with h | h
  · rw [Nat.min_eq_right h.le]
  · rw [Nat.min_eq_left h, notice_of_le h, notice_of_le (Nat.le_refl _)]

namespace ContentPreview
variable (body : DecodedBody) (limit totalBytes textRows : Nat)

theorem truncated_ofBody :
    (ofBody body limit totalBytes textRows).truncated = true ↔ limit < totalBytes := by
  simp only [ofBody, decide_eq_true_eq]
  omega

theorem notice_ofBody :
    (ofBody body limit totalBytes textRows).notice = Preview.notice limit totalBytes :=
  notice_min limit totalBytes

end ContentPreview
end MessageInspector.Preview
