import MessageInspector.Proofs.Time.Timestamps
/-!
# Timestamp texts

The text of a local time and its offset is read as the instant that both denote, so an instant is
shown alike whether it is given as a number or as a text at any offset.
-/
namespace MessageInspector.Time
open Decimal

/-- The text of an instant at an offset of so many minutes. -/
inductive TimestampText (m o : Int) : String → Prop
  | intro {t : LocalTime} {cs : List Char} (real : t.Real) (millis : t.millis = m + 60000 * o)
      (offset : OffsetText cs o) : TimestampText m o (String.ofList (t.text 'T' ++ cs))

/-! ## Digits -/

theorem fixedDigits_append {ds : List Char} (h : ∀ c ∈ ds, Char.isDigit c = true) (n : Nat)
    (rest : List Char) :
    fixedDigits ds.length n (ds ++ rest) = some (Nat.ofDigitChars 10 ds n, rest) := by
  induction ds generalizing n with
  | nil => rfl
  | cons c ds ih =>
    have hc : isDigit c = true := h c List.mem_cons_self
    rw [List.cons_append, List.length_cons, fixedDigits, if_pos hc,
      ih fun d hd => h d (List.mem_cons_of_mem _ hd), Nat.ofDigitChars_cons, Nat.mul_comm]

theorem fixedDigits_padded {width n : Nat} (hwidth : 0 < width) (h : n < 10 ^ width)
    (rest : List Char) : fixedDigits width 0 (padded width n ++ rest) = some (n, rest) := by
  have hdigits := digitsText_padded width n
  have hread := fixedDigits_append hdigits.digits 0 rest
  rw [length_padded hwidth h, hdigits.value] at hread
  exact hread

theorem isDigit_padded (width n : Nat) : ∀ c ∈ padded width n, isDigit c = true :=
  (digitsText_padded width n).digits

theorem takeWhile_padded (width n : Nat) {c : Char} (hc : isDigit c = false) (rest : List Char) :
    (padded width n ++ c :: rest).takeWhile isDigit = padded width n := by
  rw [List.takeWhile_append_of_pos (isDigit_padded width n),
    List.takeWhile_cons_of_neg (by simp [hc]), List.append_nil]

theorem dropWhile_padded (width n : Nat) {c : Char} (hc : isDigit c = false) (rest : List Char) :
    (padded width n ++ c :: rest).dropWhile isDigit = c :: rest := by
  rw [List.dropWhile_append_of_pos (isDigit_padded width n),
    List.dropWhile_cons_of_neg (by simp [hc])]

theorem expect_cons (c : Char) (rest : List Char) : expect c (c :: rest) = some rest := by
  rw [expect, if_pos rfl]

/-! ## Parts of a text -/

section Parts
variable {t : LocalTime} (h : t.Real) (rest : List Char)
include h

theorem dateText?_append :
    dateText? (padded 4 t.date.year.toNat ++ '-' :: (padded 2 t.date.month ++
      '-' :: (padded 2 t.date.day ++ rest))) = some (t.date, rest) := by
  have hyear : (t.date.year.toNat : Int) = t.date.year := Int.toNat_of_nonneg h.year.1
  have hreal : Date.isReal ⟨t.date.year, t.date.month, t.date.day⟩ = true := h.date
  simp only [dateText?, fixedDigits_padded (by decide : 0 < 4) h.year_lt,
    fixedDigits_padded (by decide : 0 < 2) h.month_lt,
    fixedDigits_padded (by decide : 0 < 2) h.day_lt, expect_cons, Option.bind_eq_bind,
    Option.bind_some, hyear, hreal, if_true]

theorem clockText?_append :
    clockText? (padded 2 t.hour ++ ':' :: (padded 2 t.minute ++
      ':' :: (padded 2 t.second ++ rest))) = some ((t.hour, t.minute, t.second), rest) := by
  have hclock : t.hour ≤ 23 ∧ t.minute ≤ 59 ∧ t.second ≤ 60 := by
    obtain ⟨-, -, hhour, hminute, hsecond, -⟩ := h
    omega
  simp only [clockText?, fixedDigits_padded (by decide : 0 < 2) (Nat.lt_trans h.hour (by decide)),
    fixedDigits_padded (by decide : 0 < 2) (Nat.lt_trans h.minute (by decide)),
    fixedDigits_padded (by decide : 0 < 2) (Nat.lt_trans h.second (by decide)), expect_cons,
    Option.bind_eq_bind, Option.bind_some, if_pos hclock]

theorem fraction_append {c : Char} (hc : isDigit c = false) :
    fraction ('.' :: (padded 3 t.milli ++ c :: rest)) = some (t.milli, c :: rest) := by
  have hne : (padded 3 t.milli).isEmpty = false := by
    simp [(digitsText_padded 3 t.milli).nonempty]
  rw [fraction, takeWhile_padded _ _ hc, dropWhile_padded _ _ hc]
  simp only [hne, fixedDigits_padded (by decide : 0 < 3) h.milli, Bool.false_eq_true, if_false,
    Option.bind_eq_bind, Option.bind_some]

end Parts

theorem OffsetText.exists_sign {cs : List Char} {o : Int} (h : OffsetText cs o) :
    ∃ c rest, cs = c :: rest ∧ isDigit c = false := by
  cases h with
  | ahead => exact ⟨_, _, rfl, rfl⟩
  | behind => exact ⟨_, _, rfl, rfl⟩

theorem offsetText?_cons {c : Char} (hc : c = '+' ∨ c = '-') {hour minute : Nat}
    (hhour : hour < 24) (hminute : minute < 60) :
    offsetText? (c :: (padded 2 hour ++ ':' :: padded 2 minute)) =
      some (if c = '+' then ((hour * 60 + minute) * 60 : Int)
        else -((hour * 60 + minute) * 60)) := by
  have hzulu : ¬ (c = 'Z' ∨ c = 'z') := by
    obtain rfl | rfl := hc <;> decide
  have hsign : c = '+' ∨ c = '-' ∨ c = '\u2212' := by
    obtain rfl | rfl := hc <;> decide
  have hend : fixedDigits 2 0 (padded 2 minute) = some (minute, []) := by
    have hread := fixedDigits_padded (by decide : 0 < 2) (Nat.lt_trans hminute (by decide)) []
    rw [List.append_nil] at hread
    exact hread
  have hclock : ([] : List Char).isEmpty = true ∧ hour ≤ 23 ∧ minute ≤ 59 := by
    refine ⟨rfl, ?_, ?_⟩ <;> omega
  simp only [Time.offsetText?, if_neg hzulu, if_pos hsign, Option.bind_eq_bind, Option.bind_some,
    fixedDigits_padded (by decide : 0 < 2) (Nat.lt_trans hhour (by decide)), expect_cons, hend,
    if_pos hclock]

theorem OffsetText.offsetText? {cs : List Char} {o : Int} (h : OffsetText cs o) :
    Time.offsetText? cs = some (60 * o) := by
  cases h with
  | ahead hhour hminute =>
    rw [offsetText?_cons (.inl rfl) hhour hminute, if_pos rfl, Int.mul_comm]
  | behind hhour hminute =>
    rw [offsetText?_cons (.inr rfl) hhour hminute, if_neg (by decide), Int.mul_neg, Int.mul_comm]

/-- A text with all its parts is read as the instant of the local time at the offset. -/
theorem instantText?_append {t : LocalTime} (h : t.Real) {cs : List Char} {o : Int}
    (ho : OffsetText cs o) :
    instantText? (t.text 'T' ++ cs) = some (Instant.ofMillis (t.millis - 60000 * o)) := by
  have hoffset := ho.offsetText?
  obtain ⟨c, rest, rfl, hc⟩ := ho.exists_sign
  have hseparator : ∀ after, separator? ('T' :: after) = some after := fun _ => rfl
  have hdays := toDays_eq_countedDays h.date
  have hsecond := h.second
  have hmilli := h.milli
  have hleap : decide (t.second = 60) = false := decide_eq_false (by omega)
  simp only [instantText?, LocalTime.text, LocalTime.afterYear, List.append_assoc, List.cons_append,
    Option.bind_eq_bind, Option.bind_some, dateText?_append h, hseparator, clockText?_append h,
    fraction_append h rest hc, hoffset, hleap, Instant.ofMillis, LocalTime.millis, hdays,
    Option.some.injEq, Instant.mk.injEq, and_true]
  omega

/-- The text of an instant at an offset is shown as the instant is. -/
theorem formatValue?_timestampText {m o : Int} (ho : -1440 < o ∧ o < 1440)
    (hyear : FourDigitYear (60 * o) m) (p : Preferences) (style : TimestampStyle) :
    ∃ shown, p.formatValue? style (.number (.int m)) = some shown ∧
      (∃ text, TimestampText m o text) ∧
      ∀ text, TimestampText m o text → p.formatValue? style (.string text) = some shown := by
  have hbelow : BelowDay (60 * o) := by
    simp only [BelowDay, secondsPerDay]
    omega
  have hmillis : (localTime (60 * o) m).millis = m + 60000 * o := by
    rw [millis_localTime]
    omega
  refine ⟨p.format style (Instant.ofMillis m), ?_, ?_, ?_⟩
  · rw [Preferences.formatValue?, instant?, hyear.ofMillis? hbelow, Option.map_some]
  · exact ⟨_, .intro hyear.real hmillis (offsetText_offsetText ho)⟩
  · intro text htext
    obtain ⟨hreal, hlocal, hoffset⟩ := htext
    have hinstant := instantText?_append hreal hoffset
    rw [hlocal, Int.add_sub_cancel] at hinstant
    rw [Preferences.formatValue?, instant?, String.toList_ofList, hinstant, Option.map_some]

theorem formatValue?_timestampText_of_leap_day :
    ∃ shown, Preferences.utc.formatValue? .full (.number (.int 951782399999)) = some shown ∧
      Preferences.utc.formatValue? .full (.string "2000-02-29T00:00:59.999+00:01") =
        some shown := by
  obtain ⟨shown, hnumber, -, htexts⟩ := formatValue?_timestampText (m := 951782399999) (o := 1)
    (by decide) ⟨by decide, by decide⟩ Preferences.utc .full
  have hreal : LocalTime.Real ⟨⟨2000, 2, 29⟩, 0, 0, 59, 999⟩ := by
    constructor <;> decide
  have hoffset : OffsetText "+00:01".toList 1 := @OffsetText.ahead 0 1 (by decide) (by decide)
  have htext : "2000-02-29T00:00:59.999+00:01" = String.ofList
      (LocalTime.text 'T' ⟨⟨2000, 2, 29⟩, 0, 0, 59, 999⟩ ++ "+00:01".toList) := by decide
  refine ⟨shown, hnumber, ?_⟩
  rw [htext]
  exact htexts _ (.intro hreal (by decide) hoffset)

end MessageInspector.Time
