import MessageInspector.Proofs.Text.Decimals
import MessageInspector.Proofs.Time.Calendar
import MessageInspector.Time.Preferences
/-!
# Local times

What a clock on the wall shows: a date and a time of day. Counted in milliseconds from the start of
1970 by the same clock it is one number, and every number is counted by one local time. In the years
that four digits can write, the text of a local time has a fixed width and says which one it is.
-/
namespace MessageInspector.Time
open Decimal

structure LocalTime where
  date : Date
  hour : Nat
  minute : Nat
  second : Nat
  milli : Nat

namespace LocalTime

/-- The local time occurs, and its year has four digits. -/
structure Real (t : LocalTime) : Prop where
  date : t.date.isReal = true
  year : 0 ≤ t.date.year ∧ t.date.year ≤ 9999
  hour : t.hour < 24
  minute : t.minute < 60
  second : t.second < 60
  milli : t.milli < 1000

def millis (t : LocalTime) : Int :=
  (t.date.countedDays * 86400 + (t.hour * 60 + t.minute) * 60 + t.second) * 1000 + t.milli

/-- `-MM-DD` and `HH:MM:SS.mmm` with a separator between them. -/
def afterYear (separator : Char) (t : LocalTime) : List Char :=
  '-' :: (padded 2 t.date.month ++ '-' :: (padded 2 t.date.day ++ separator ::
    (padded 2 t.hour ++ ':' :: (padded 2 t.minute ++ ':' :: (padded 2 t.second ++
      '.' :: padded 3 t.milli)))))

/-- `YYYY-MM-DD` and `HH:MM:SS.mmm` with a separator between them. -/
def text (separator : Char) (t : LocalTime) : List Char :=
  padded 4 t.date.year.toNat ++ t.afterYear separator

def ofMillis (z : Int) : LocalTime :=
  let clock := (z / 1000 % secondsPerDay).toNat
  { date := Date.ofDays (z / 1000 / secondsPerDay)
    hour := clock / 3600
    minute := clock / 60 % 60
    second := clock % 60
    milli := (z % 1000).toNat }

theorem countedDays_ofMillis (z : Int) :
    (ofMillis z).date.countedDays = z / 1000 / secondsPerDay := by
  have hcounted := toDays_eq_countedDays (isReal_ofDays (z / 1000 / secondsPerDay))
  rw [toDays_ofDays] at hcounted
  exact hcounted.symm

theorem millis_ofMillis (z : Int) : (ofMillis z).millis = z := by
  rw [millis, countedDays_ofMillis]
  simp only [ofMillis, secondsPerDay]
  omega

theorem real_ofMillis {z : Int} (h : 0 ≤ (ofMillis z).date.year ∧ (ofMillis z).date.year ≤ 9999) :
    (ofMillis z).Real where
  date := isReal_ofDays _
  year := h
  hour := by
    simp only [ofMillis, secondsPerDay]
    omega
  minute := Nat.mod_lt _ (by decide)
  second := Nat.mod_lt _ (by decide)
  milli := by
    simp only [ofMillis]
    omega

theorem Real.millis_range {t : LocalTime} (h : t.Real) :
    -62167219200000 ≤ t.millis ∧ t.millis < 253402300800000 := by
  have hbefore := countedDays_lt_iff h.date (-1)
  have hafter := countedDays_lt_iff h.date 9999
  obtain ⟨-, hyear, hhour, hminute, hsecond, hmilli⟩ := h
  simp only [leapDays] at hbefore hafter
  rw [millis]
  omega

/-! ## Texts -/

section Text
variable {t t' : LocalTime}

theorem Real.year_lt (h : t.Real) : t.date.year.toNat < 10 ^ 4 := by
  have hyear := h.year
  omega

theorem Real.month_lt (h : t.Real) : t.date.month < 10 ^ 2 := by
  have hmonth := (isReal_iff.mp h.date).1
  omega

theorem Real.day_lt (h : t.Real) : t.date.day < 10 ^ 2 := by
  have hday := (isReal_iff.mp h.date).2
  have hlength := daysInMonth_le t.date.year t.date.month
  omega

/-- The text of a local time says which one it is, whatever follows it. -/
theorem text_append_inj {separator : Char} {rest rest' : List Char} (h : t.Real) (h' : t'.Real)
    (heq : t.text separator ++ rest = t'.text separator ++ rest') : t = t' ∧ rest = rest' := by
  simp only [text, afterYear, List.append_assoc, List.cons_append] at heq
  obtain ⟨hyear, heq⟩ := padded_append_inj (by decide) h.year_lt h'.year_lt heq
  obtain ⟨hmonth, heq⟩ := padded_append_inj (by decide) h.month_lt h'.month_lt (List.cons.inj heq).2
  obtain ⟨hday, heq⟩ := padded_append_inj (by decide) h.day_lt h'.day_lt (List.cons.inj heq).2
  obtain ⟨hhour, heq⟩ := padded_append_inj (by decide) (Nat.lt_trans h.hour (by decide))
    (Nat.lt_trans h'.hour (by decide)) (List.cons.inj heq).2
  obtain ⟨hminute, heq⟩ := padded_append_inj (by decide) (Nat.lt_trans h.minute (by decide))
    (Nat.lt_trans h'.minute (by decide)) (List.cons.inj heq).2
  obtain ⟨hsecond, heq⟩ := padded_append_inj (by decide) (Nat.lt_trans h.second (by decide))
    (Nat.lt_trans h'.second (by decide)) (List.cons.inj heq).2
  obtain ⟨hmilli, hrest⟩ := padded_append_inj (by decide) h.milli h'.milli (List.cons.inj heq).2
  have hbounds := h.year
  have hbounds' := h'.year
  refine ⟨?_, hrest⟩
  obtain ⟨⟨year, month, day⟩, hour, minute, second, milli⟩ := t
  obtain ⟨⟨year', month', day'⟩, hour', minute', second', milli'⟩ := t'
  simp only at hyear hmonth hday hhour hminute hsecond hmilli hbounds hbounds'
  obtain rfl : year = year' := by omega
  subst hmonth hday hhour hminute hsecond hmilli
  rfl

theorem text_ne_sign {separator c : Char} {rest rest' : List Char}
    (heq : t.text separator ++ rest = c :: rest') : c ≠ '+' ∧ c ≠ '-' := by
  have hdigits := digitsText_padded 4 t.date.year.toNat
  obtain ⟨d, ds, hds⟩ := List.exists_cons_of_ne_nil hdigits.nonempty
  simp only [text, hds, List.cons_append] at heq
  rw [hds] at hdigits
  rw [← (List.cons.inj heq).1]
  exact hdigits.not_sign

end Text
end LocalTime

/-- `±HH:MM` is the text of so many minutes. -/
inductive OffsetText : List Char → Int → Prop
  | ahead {hour minute : Nat} (hhour : hour < 24) (hminute : minute < 60) :
      OffsetText ('+' :: (padded 2 hour ++ ':' :: padded 2 minute)) (hour * 60 + minute)
  | behind {hour minute : Nat} (hhour : hour < 24) (hminute : minute < 60) :
      OffsetText ('-' :: (padded 2 hour ++ ':' :: padded 2 minute)) (-(hour * 60 + minute))

theorem clock_append_inj {hour minute hour' minute' : Nat} {rest rest' : List Char}
    (hhour : hour < 24) (hminute : minute < 60) (hhour' : hour' < 24) (hminute' : minute' < 60)
    (h : padded 2 hour ++ ':' :: (padded 2 minute ++ rest) =
      padded 2 hour' ++ ':' :: (padded 2 minute' ++ rest')) :
    hour = hour' ∧ minute = minute' := by
  obtain ⟨heq, hcolon⟩ := padded_append_inj (by decide) (Nat.lt_trans hhour (by decide))
    (Nat.lt_trans hhour' (by decide)) h
  obtain ⟨heq', -⟩ := padded_append_inj (by decide) (Nat.lt_trans hminute (by decide))
    (Nat.lt_trans hminute' (by decide)) (List.cons.inj hcolon).2
  exact ⟨heq, heq'⟩

theorem OffsetText.eq_of_append {cs cs' rest rest' : List Char} {o o' : Int}
    (h : OffsetText cs o) (h' : OffsetText cs' o') (heq : cs ++ rest = cs' ++ rest') : o = o' := by
  cases h with
  | ahead hhour hminute =>
    cases h' with
    | ahead hhour' hminute' =>
      simp only [List.cons_append, List.append_assoc, List.cons.injEq, true_and] at heq
      obtain ⟨rfl, rfl⟩ := clock_append_inj hhour hminute hhour' hminute' heq
      rfl
    | behind => exact absurd (List.cons.inj heq).1 (by decide)
  | behind hhour hminute =>
    cases h' with
    | ahead => exact absurd (List.cons.inj heq).1 (by decide)
    | behind hhour' hminute' =>
      simp only [List.cons_append, List.append_assoc, List.cons.injEq, true_and] at heq
      obtain ⟨rfl, rfl⟩ := clock_append_inj hhour hminute hhour' hminute' heq
      rfl

theorem offsetText_offsetText {o : Int} (h : -1440 < o ∧ o < 1440) :
    OffsetText (offsetText (60 * o)) o := by
  have hminutes : ((60 * o).natAbs + 30) / 60 = o.natAbs := by omega
  have hhour : o.natAbs / 60 < 24 := by omega
  have hminute : o.natAbs % 60 < 60 := Nat.mod_lt _ (by decide)
  simp only [offsetText, hminutes]
  by_cases hsign : 60 * o < 0
  · have ho : -(((o.natAbs / 60 : Nat) : Int) * 60 + (o.natAbs % 60 : Nat)) = o := by omega
    have hbehind := OffsetText.behind hhour hminute
    rw [ho] at hbehind
    rw [if_pos hsign]
    exact hbehind
  · have ho : ((o.natAbs / 60 : Nat) : Int) * 60 + (o.natAbs % 60 : Nat) = o := by omega
    have hahead := OffsetText.ahead hhour hminute
    rw [ho] at hahead
    rw [if_neg hsign]
    exact hahead

end MessageInspector.Time
