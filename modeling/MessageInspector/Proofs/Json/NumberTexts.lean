import MessageInspector.Json.Printer
import MessageInspector.Proofs.Json.Reading
import MessageInspector.Proofs.Text.Utf8
/-!
# Texts of numbers

An integer that fits 64 bits is written with its sign and its digits, and reads as itself. A number
that is skipped may have a fraction and an exponent and be of any magnitude.
-/
namespace MessageInspector.Json
open Scan

def Digits (text : List UInt8) : Prop := text ≠ [] ∧ ∀ b ∈ text, Byte.isDigit b = true

/-- Digits without a superfluous zero in front. -/
structure WholeText (text : List UInt8) : Prop where
  digits : Digits text
  lead : text.head? = some 0x30 → text.length = 1

def digitValues (text : List UInt8) : List Nat := text.map fun b => b.toNat - 0x30

def wholeValue (text : List UInt8) : Nat := valueOfDigits (digitValues text)

/-- The texts of integers that fit 64 bits. Minus zero is none. -/
inductive IntegerText : List UInt8 → Int → Prop
  | natural {text} : WholeText text → wholeValue text ≤ largestUnsigned →
      IntegerText text (wholeValue text)
  | negative {text} : WholeText text → 0 < wholeValue text → wholeValue text ≤ largestNegated →
      IntegerText (Byte.minus :: text) (-(wholeValue text : Int))

inductive FractionText : List UInt8 → Prop
  | none : FractionText []
  | some {text} : Digits text → FractionText (Byte.point :: text)

inductive ExponentText : List UInt8 → Prop
  | none : ExponentText []
  | some {e sign text} : isExponentMark e = true → sign ∈ [[], [Byte.plus], [Byte.minus]] →
      Digits text → ExponentText (e :: (sign ++ text))

inductive NumberText : List UInt8 → Prop
  | positive {whole fraction exponent} : WholeText whole → FractionText fraction →
      ExponentText exponent → NumberText (whole ++ (fraction ++ exponent))
  | negative {whole fraction exponent} : WholeText whole → FractionText fraction →
      ExponentText exponent → NumberText (Byte.minus :: (whole ++ (fraction ++ exponent)))

theorem takeDigits_append {text rest : List UInt8} (h : ∀ b ∈ text, Byte.isDigit b = true)
    (hrest : ∀ b ∈ rest.head?, Byte.isDigit b = false) :
    takeDigits (text ++ rest) = (digitValues text, rest) := by
  induction text with
  | nil => exact takeDigits_of_stop hrest
  | cons b text ih =>
    have hb := h b List.mem_cons_self
    have htext := ih fun c hc => h c (List.mem_cons_of_mem _ hc)
    simp only [List.cons_append, takeDigits, if_pos hb, htext]
    rfl

theorem digitValues_ne_nil {text : List UInt8} (h : text ≠ []) : digitValues text ≠ [] := by
  simpa [digitValues] using h

theorem Digits.head {text : List UInt8} (h : Digits text) :
    ∃ b more, text = b :: more ∧ Byte.isDigit b = true := by
  obtain ⟨b, more, rfl⟩ := List.exists_cons_of_ne_nil h.1
  exact ⟨b, more, rfl, h.2 b List.mem_cons_self⟩

theorem Byte.isDigit_iff {b : UInt8} : Byte.isDigit b = true ↔ 0x30 ≤ b.toNat ∧ b.toNat ≤ 0x39 := by
  simp only [Byte.isDigit, Bool.and_eq_true, decide_eq_true_eq, UInt8.le_iff_toNat_le]
  exact Iff.rfl

theorem WholeText.not_superfluous {text : List UInt8} (h : WholeText text) :
    ¬ ((digitValues text).head? = some 0 ∧ 1 < (digitValues text).length) := by
  rintro ⟨hzero, hlength⟩
  obtain ⟨b, more, rfl, hb⟩ := h.digits.head
  rw [Byte.isDigit_iff] at hb
  have hvalue : b.toNat - 0x30 = 0 := Option.some.inj hzero
  have hbyte : b = 0x30 := UInt8.toNat_inj.mp (by change b.toNat = 0x30; omega)
  have hone := h.lead (congrArg some hbyte)
  rw [digitValues, List.length_map] at hlength
  omega

/-! ## Reading integers -/

theorem le_foldl_digits (n : Nat) (ds : List Nat) : n ≤ ds.foldl (fun n d => n * 10 + d) n := by
  induction ds generalizing n with
  | nil => exact Nat.le_refl n
  | cons d ds ih => exact Nat.le_trans (by omega) (ih (n * 10 + d))

theorem absorbWhole_of_fits (n : Nat) (ds : List Nat)
    (h : ds.foldl (fun n d => n * 10 + d) n ≤ largestUnsigned) :
    absorbWhole n ds = (ds.foldl (fun n d => n * 10 + d) n, 0) := by
  induction ds generalizing n with
  | nil => rfl
  | cons d ds ih =>
    have hnext : n * 10 + d ≤ largestUnsigned := Nat.le_trans (le_foldl_digits _ ds) h
    have hpush : pushDigit? n d = some (n * 10 + d) := if_pos hnext
    simp only [absorbWhole, hpush]
    exact ih (n * 10 + d) h

theorem unsignedNumber_append (negative : Bool) {text rest : List UInt8} (h : WholeText text)
    (hfits : wholeValue text ≤ largestUnsigned) (stops : Stops rest) :
    unsignedNumber negative (text ++ rest) =
      (wholeNumber negative (wholeValue text) 0).map (·, rest) := by
  have hneed : needDigits (text ++ rest) = .ok (digitValues text, rest) :=
    needDigits_eq_ok.mpr ⟨takeDigits_append h.digits.2 fun b hb => (stops b hb).1,
      digitValues_ne_nil h.digits.1⟩
  have habsorb := absorbWhole_of_fits 0 (digitValues text) hfits
  rw [unsignedNumber, hneed]
  simp only [if_neg h.not_superfluous, habsorb]
  rw [afterWhole_no_point _ _ _ fun b hb => (stops b hb).2.1,
    unlessExponent_of_stop _ _ fun b hb => (stops b hb).2.2]
  rfl

theorem signedNumber_append {text rest : List UInt8} {z : Int} (h : IntegerText text z)
    (stops : Stops rest) : signedNumber (text ++ rest) = .ok (.int z, rest) := by
  cases h with
  | natural hwhole hfits =>
    have hread := unsignedNumber_append false hwhole hfits stops
    obtain ⟨b, more, rfl, hb⟩ := hwhole.digits.head
    have hminus : b ≠ Byte.minus := by
      rintro rfl
      exact absurd hb (by decide)
    rw [List.cons_append] at hread ⊢
    rw [signedNumber, if_neg hminus, hread]
    rfl
  | negative hwhole hpositive hfits =>
    have hfits' : wholeValue _ ≤ largestUnsigned := Nat.le_trans hfits (by decide)
    rw [List.cons_append, signedNumber, if_pos rfl, unsignedNumber_append true hwhole hfits' stops,
      wholeNumber, if_pos rfl, if_neg (by decide), if_pos ⟨hpositive, hfits⟩]
    rfl

theorem IntegerText.head {text : List UInt8} {z : Int} (h : IntegerText text z) :
    ∃ b more, text = b :: more ∧ (b = Byte.minus ∨ Byte.isDigit b = true) := by
  cases h with
  | natural hwhole =>
    obtain ⟨b, more, hb, hdigit⟩ := hwhole.digits.head
    exact ⟨b, more, hb, .inr hdigit⟩
  | negative => exact ⟨_, _, rfl, .inl rfl⟩

theorem takes_numeral {before text : List UInt8} {z : Int} (hbefore : Blank before)
    (h : IntegerText text z) : (Reader.scan numeral).Takes (before ++ text) (.int z) := by
  intro rest stops
  obtain ⟨b, more, rfl, hb⟩ := h.head
  have hread := signedNumber_append h stops
  rw [List.cons_append] at hread
  have hblanks : blanks (before ++ b :: (more ++ rest)) = .ok ((), b :: (more ++ rest)) := by
    rw [blanks, skipBlanks_append_cons hbefore (isBlank_of_number hb)]
  rw [List.append_assoc, List.cons_append, scan_numeral, andThen_of_ok hblanks, hread]

/-! ## Skipping numbers -/

theorem skipDigits_append {text rest : List UInt8} (h : Digits text)
    (hrest : ∀ b ∈ rest.head?, Byte.isDigit b = false) :
    skipDigits (text ++ rest) = .ok (digitValues text, rest) := by
  have hne := digitValues_ne_nil h.1
  rw [skipDigits, takeDigits_append h.2 hrest]
  cases hds : digitValues text with
  | nil => exact absurd hds hne
  | cons d ds => rfl

theorem exponentSign_append {sign text : List UInt8} (h : sign ∈ [[], [Byte.plus], [Byte.minus]])
    (htext : Digits text) (rest : List UInt8) :
    (exponentSign (sign ++ text ++ rest)).2 = text ++ rest := by
  simp only [List.mem_cons, List.not_mem_nil, or_false] at h
  obtain rfl | rfl | rfl := h
  · obtain ⟨b, more, rfl, hb⟩ := htext.head
    have hplus : b ≠ Byte.plus := by
      rintro rfl
      exact absurd hb (by decide)
    have hminus : b ≠ Byte.minus := by
      rintro rfl
      exact absurd hb (by decide)
    simp only [List.nil_append, List.cons_append, exponentSign, if_neg hplus, if_neg hminus]
  · rfl
  · rfl

section Stops
variable {rest : List UInt8} (stops : Stops rest)
include stops

theorem skipExponent_append {text : List UInt8} (h : ExponentText text) :
    skipExponent (text ++ rest) = .ok rest := by
  cases h with
  | none =>
    cases rest with
    | nil => rfl
    | cons b rest =>
      have hmark : ¬ isExponentMark b = true := by simp [(stops b rfl).2.2]
      rw [List.nil_append, skipExponent, if_neg hmark]
  | some he hsign hdigits =>
    rw [List.cons_append, skipExponent, if_pos he, exponentSign_append hsign hdigits,
      skipDigits_append hdigits fun b hb => (stops b hb).1]
    rfl

theorem stops_exponent {text : List UInt8} (h : ExponentText text) :
    ∀ b ∈ (text ++ rest).head?, Byte.isDigit b = false ∧ b ≠ Byte.point := by
  cases h with
  | none =>
    intro b hb
    exact ⟨(stops b hb).1, (stops b hb).2.1⟩
  | @some e sign text he =>
    intro b hb
    obtain rfl : e = b := Option.some.inj hb
    have hcases : e = 0x65 ∨ e = 0x45 := by simpa [isExponentMark] using he
    obtain rfl | rfl := hcases <;> decide

theorem skipFraction_append {fraction exponent : List UInt8} (hfraction : FractionText fraction)
    (hexponent : ExponentText exponent) :
    skipFraction (fraction ++ (exponent ++ rest)) = .ok rest := by
  have hskip := skipExponent_append stops hexponent
  have hhead := stops_exponent stops hexponent
  cases hfraction with
  | none =>
    rw [List.nil_append]
    generalize exponent ++ rest = s at hskip hhead
    cases s with
    | nil => exact hskip
    | cons b t => rw [skipFraction, if_neg (hhead b rfl).2, hskip]
  | some hdigits =>
    rw [List.cons_append, skipFraction, if_pos rfl,
      skipDigits_append hdigits fun b hb => (hhead b hb).1]
    exact hskip

theorem stops_fraction {fraction exponent : List UInt8} (hfraction : FractionText fraction)
    (hexponent : ExponentText exponent) :
    ∀ b ∈ (fraction ++ (exponent ++ rest)).head?, Byte.isDigit b = false := by
  cases hfraction with
  | none => exact fun b hb => (stops_exponent stops hexponent b hb).1
  | some =>
    intro b hb
    obtain rfl : Byte.point = b := Option.some.inj hb
    rfl

theorem skipUnsigned_append {whole fraction exponent : List UInt8} (hwhole : WholeText whole)
    (hfraction : FractionText fraction) (hexponent : ExponentText exponent) :
    skipUnsigned (whole ++ (fraction ++ exponent) ++ rest) = .ok rest := by
  rw [List.append_assoc, List.append_assoc, skipUnsigned,
    skipDigits_append hwhole.digits (stops_fraction stops hfraction hexponent)]
  simp only [if_neg hwhole.not_superfluous]
  exact skipFraction_append stops hfraction hexponent

end Stops

theorem skipNumeral_of_visible {s more rest : List UInt8} {b : UInt8}
    (h : skipBlanks s = b :: more)
    (hskip : (if b = Byte.minus then skipUnsigned more else skipUnsigned (b :: more)) = .ok rest) :
    Reader.scan skipNumeral s = .ok ((), rest) := by
  simp only [Reader.scan, Reader.run, skipNumeral]
  split
  · rename_i hs
    rw [h] at hs
    cases hs
  · rename_i c t hs
    rw [h] at hs
    obtain ⟨rfl, rfl⟩ := List.cons.inj hs
    by_cases hminus : b = Byte.minus
    · simp only [if_pos hminus] at hskip ⊢
      split
      · rename_i fault hn
        rw [hskip] at hn
        cases hn
      · rename_i rest' hn
        rw [hskip] at hn
        cases hn
        rfl
    · simp only [if_neg hminus] at hskip ⊢
      split
      · rename_i fault hn
        rw [hskip] at hn
        cases hn
      · rename_i rest' hn
        rw [hskip] at hn
        cases hn
        rfl

theorem takes_skipNumeral {before text : List UInt8} (hbefore : Blank before)
    (h : NumberText text) : (Reader.scan skipNumeral).Takes (before ++ text) () := by
  intro rest stops
  cases h with
  | positive hwhole hfraction hexponent =>
    have hskip := skipUnsigned_append stops hwhole hfraction hexponent
    obtain ⟨b, more, rfl, hb⟩ := hwhole.digits.head
    have hminus : b ≠ Byte.minus := by
      rintro rfl
      exact absurd hb (by decide)
    simp only [List.append_assoc, List.cons_append] at hskip ⊢
    apply skipNumeral_of_visible (skipBlanks_append_cons hbefore (isBlank_of_number (.inr hb)) _)
    rw [if_neg hminus]
    exact hskip
  | negative hwhole hfraction hexponent =>
    rw [List.append_assoc]
    apply skipNumeral_of_visible (skipBlanks_append_cons hbefore (by decide) _)
    rw [if_pos rfl]
    exact skipUnsigned_append stops hwhole hfraction hexponent

/-! ## Writing integers -/

theorem wholeValue_append (text : List UInt8) (b : UInt8) :
    wholeValue (text ++ [b]) = wholeValue text * 10 + (b.toNat - 0x30) := by
  simp [wholeValue, valueOfDigits, digitValues]

theorem encode_digitChar :
    ∀ n < 10, Utf8.encode [Nat.digitChar n] = [UInt8.ofNat (0x30 + n)] := by
  decide

theorem digitChar_spec {n : Nat} (h : n < 10) :
    ∃ b, Utf8.encode [Nat.digitChar n] = [b] ∧ b.toNat = 0x30 + n :=
  ⟨_, encode_digitChar n h, UInt8.toNat_ofNat_of_lt' (Nat.lt_trans (by omega : _ < 58) (by decide))⟩

theorem isDigit_digit {b : UInt8} {n : Nat} (hn : n < 10) (hb : b.toNat = 0x30 + n) :
    Byte.isDigit b = true := by
  rw [Byte.isDigit_iff]
  omega

theorem wholeText_toDigits (n : Nat) :
    WholeText (Utf8.encode (Nat.toDigits 10 n)) ∧
      wholeValue (Utf8.encode (Nat.toDigits 10 n)) = n := by
  induction n using Nat.strongRecOn with
  | ind n ih =>
    by_cases hn : n < 10
    · obtain ⟨b, hencode, hb⟩ := digitChar_spec hn
      rw [Nat.toDigits_of_lt_base hn, hencode]
      refine ⟨⟨⟨List.cons_ne_nil _ _, ?_⟩, fun _ => rfl⟩, ?_⟩
      · intro c hc
        obtain rfl := List.mem_singleton.mp hc
        exact isDigit_digit hn hb
      · simp [wholeValue, valueOfDigits, digitValues, hb]
    · obtain ⟨hwhole, hvalue⟩ := ih (n / 10) (by omega)
      obtain ⟨b, hencode, hb⟩ := digitChar_spec (Nat.mod_lt n (by omega : 10 > 0))
      rw [Nat.toDigits_of_base_le (by omega) (by omega), Utf8.encode_append, hencode]
      refine ⟨⟨⟨by simp, ?_⟩, ?_⟩, ?_⟩
      · intro c hc
        obtain hc | hc := List.mem_append.mp hc
        · exact hwhole.digits.2 c hc
        · obtain rfl := List.mem_singleton.mp hc
          exact isDigit_digit (by omega) hb
      · intro hzero
        generalize Utf8.encode (Nat.toDigits 10 (n / 10)) = text at hwhole hvalue hzero
        obtain ⟨d, more, rfl, -⟩ := hwhole.digits.head
        obtain rfl : d = 0x30 := Option.some.inj hzero
        have hone := hwhole.lead rfl
        obtain rfl : more = [] := by simpa using hone
        have hnone : wholeValue [0x30] = 0 := by decide
        omega
      · rw [wholeValue_append, hvalue, hb]
        omega

theorem integerText_text {z : Int} (h : -(largestNegated : Int) ≤ z ∧ z ≤ largestUnsigned) :
    IntegerText (Utf8.ofString (Number.int z).text) z := by
  cases z with
  | ofNat n =>
    obtain ⟨hwhole, hvalue⟩ := wholeText_toDigits n
    have hfits : wholeValue (Utf8.encode (Nat.toDigits 10 n)) ≤ largestUnsigned := by
      rw [hvalue]
      exact Int.ofNat_le.mp h.2
    have htext := IntegerText.natural hwhole hfits
    rw [hvalue] at htext
    simpa [Number.text, Utf8.ofString] using htext
  | negSucc n =>
    obtain ⟨hwhole, hvalue⟩ := wholeText_toDigits (n + 1)
    have htext := IntegerText.negative hwhole (by omega) (by rw [hvalue]; omega)
    rw [hvalue] at htext
    have htoString : Utf8.ofString (Number.int (Int.negSucc n)).text =
        Byte.minus :: Utf8.encode (Nat.toDigits 10 (n + 1)) := by
      rw [Number.text, Utf8.ofString_append]
      simp [Utf8.ofString]
      rfl
    rw [htoString]
    exact htext

end MessageInspector.Json
