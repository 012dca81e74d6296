import MessageInspector.Proofs.Time.LocalTimes
/-!
# Shown timestamps

A shown timestamp begins with the local time at the offset in force, which together with the offset
is the instant. If the offset is fixed and shown, the text alone says which instant it is.
-/
namespace MessageInspector.Time

def BelowDay (offset : Int) : Prop := -secondsPerDay < offset ∧ offset < secondsPerDay

instance (offset : Int) : Decidable (BelowDay offset) :=
  inferInstanceAs (Decidable (_ ∧ _))

namespace Preferences

/-- A zone's offsets stay below a day; without a zone the offset is a number of minutes. -/
inductive Proper : Preferences → Prop
  | zone {name : String} {zone : Zone} (h : ∀ second, BelowDay (zone.offsetAt second)) :
      Proper ⟨name, .zone zone⟩
  | fixed {name : String} {minutes : Int} : Proper ⟨name, .fixed (fixedOffset minutes)⟩

def Fixed (p : Preferences) : Prop := ∃ minutes, p.clock = .fixed (fixedOffset minutes)

end Preferences

/-! ## Offsets -/

theorem fixedOffset_eq (minutes : Int) :
    ∃ o, (-1440 < o ∧ o < 1440) ∧ fixedOffset minutes = 60 * o := by
  by_cases h : -secondsPerDay < minutes * 60 ∧ minutes * 60 < secondsPerDay
  · refine ⟨minutes, ?_, ?_⟩
    · simp only [secondsPerDay] at h
      omega
    · simp only [fixedOffset, if_pos h, Int.mul_comm]
  · exact ⟨0, by decide, by simp only [fixedOffset, if_neg h, Int.mul_zero]⟩

theorem belowDay_offsetAfter {current : Int} {transitions : List Transition}
    (hcurrent : BelowDay current) (h : ∀ t ∈ transitions, BelowDay t.offset) (second : Int) :
    BelowDay (offsetAfter current transitions second) := by
  induction transitions generalizing current with
  | nil => exact hcurrent
  | cons t rest ih =>
    rw [offsetAfter]
    split
    · exact ih (h t List.mem_cons_self) fun t' ht' => h t' (List.mem_cons_of_mem _ ht')
    · exact hcurrent

theorem ZoneTable.belowDay_byName : ∀ entry ∈ byName,
    BelowDay entry.2.initial ∧ ∀ t ∈ entry.2.transitions, BelowDay t.offset := by
  decide +kernel

theorem ZoneTable.belowDay_offsetAt (name : String) (zone : Zone) (h : named? name = some zone)
    (second : Int) : BelowDay (zone.offsetAt second) := by
  obtain ⟨front, back, hsplit, -⟩ := List.lookup_eq_some_iff.mp h
  have hmem : (name, zone) ∈ byName := by
    rw [hsplit]
    exact List.mem_append_right _ List.mem_cons_self
  obtain ⟨hinitial, hlater⟩ := belowDay_byName _ hmem
  exact belowDay_offsetAfter hinitial hlater second

namespace Preferences

theorem proper_ofZone {named? : String → Option Zone}
    (below : ∀ name zone, named? name = some zone → ∀ second, BelowDay (zone.offsetAt second))
    (zoneName : String) (minutes : Int) : (ofZone zoneName minutes named?).Proper := by
  rw [ofZone]
  cases h : named? (Text.trim zoneName) with
  | none => exact .fixed
  | some zone => exact .zone (below _ zone h)

theorem proper_utc : utc.Proper :=
  .zone (belowDay_offsetAfter (by decide) fun _ ht => absurd ht List.not_mem_nil)

theorem Proper.belowDay {p : Preferences} (h : p.Proper) (second : Int) :
    BelowDay (p.offsetAt second) := by
  cases h with
  | zone h => exact h second
  | @fixed _ minutes =>
    obtain ⟨o, ho, hoffset⟩ := fixedOffset_eq minutes
    simp only [offsetAt, hoffset, BelowDay, secondsPerDay]
    omega

theorem Fixed.offsetAt_eq {p : Preferences} (h : p.Fixed) :
    ∃ o, (-1440 < o ∧ o < 1440) ∧ ∀ second, p.offsetAt second = 60 * o := by
  obtain ⟨minutes, hclock⟩ := h
  obtain ⟨o, ho, hoffset⟩ := fixedOffset_eq minutes
  exact ⟨o, ho, fun _ => by rw [offsetAt, hclock, hoffset]⟩

end Preferences

/-! ## Local times of instants -/

def localTime (offset m : Int) : LocalTime := LocalTime.ofMillis (m + 1000 * offset)

def FourDigitYear (offset m : Int) : Prop :=
  0 ≤ (localTime offset m).date.year ∧ (localTime offset m).date.year ≤ 9999

section LocalTime
variable {offset m : Int}

theorem millis_localTime : (localTime offset m).millis = m + 1000 * offset :=
  LocalTime.millis_ofMillis _

theorem FourDigitYear.real (h : FourDigitYear offset m) : (localTime offset m).Real :=
  LocalTime.real_ofMillis h

theorem localText_eq (offset m : Int) : localText (Instant.ofMillis m) offset =
    yearText (localTime offset m).date.year ++ (localTime offset m).afterYear ' ' := by
  have hsecond : (m + 1000 * offset) / 1000 = m / 1000 + offset := by omega
  have hmilli : (m + 1000 * offset) % 1000 = m % 1000 := by omega
  simp only [localText, Instant.ofMillis, localTime, LocalTime.ofMillis, LocalTime.afterYear,
    Date.text, hsecond, hmilli, List.append_assoc, List.cons_append, Bool.false_eq_true, if_false,
    Nat.add_zero]

theorem FourDigitYear.localText_eq (h : FourDigitYear offset m) :
    localText (Instant.ofMillis m) offset = (localTime offset m).text ' ' := by
  rw [FourDigitYear] at h
  rw [Time.localText_eq, yearText, if_pos h, LocalTime.text]

theorem exists_sign (h : ¬ FourDigitYear offset m) :
    ∃ c rest, localText (Instant.ofMillis m) offset = c :: rest ∧ (c = '+' ∨ c = '-') := by
  rw [FourDigitYear] at h
  rw [localText_eq, yearText, if_neg h]
  refine ⟨_, _, rfl, ?_⟩
  split
  · exact .inr rfl
  · exact .inl rfl

theorem FourDigitYear.ofMillis? (h : FourDigitYear offset m) (hoffset : BelowDay offset) :
    Instant.ofMillis? m = some (Instant.ofMillis m) := by
  have hrange := h.real.millis_range
  rw [millis_localTime] at hrange
  simp only [BelowDay, secondsPerDay] at hoffset
  have hsupported : earliestMilli ≤ m ∧ m ≤ latestMilli := by
    simp only [earliestMilli, latestMilli]
    omega
  rw [Instant.ofMillis?, if_pos hsupported]

end LocalTime

/-! ## Texts -/

/-- A text begins with a local time. -/
structure ShowsTime (text : String) (t : LocalTime) : Prop where
  real : t.Real
  front : t.text ' ' <+: text.toList

/-- A text begins with a local time and an offset of so many minutes. -/
inductive ShowsOffset (text : String) (t : LocalTime) (o : Int) : Prop
  | intro {cs : List Char} (offset : OffsetText cs o) (real : t.Real)
      (front : t.text ' ' ++ (" (UTC".toList ++ (cs ++ [')'])) <+: text.toList)

section Texts
variable {text : String} {t t' : LocalTime} {o o' : Int}

theorem ShowsTime.unique (h : ShowsTime text t) (h' : ShowsTime text t') : t = t' := by
  obtain ⟨rest, hrest⟩ := h.front
  obtain ⟨rest', hrest'⟩ := h'.front
  exact (LocalTime.text_append_inj h.real h'.real (hrest.trans hrest'.symm)).1

theorem ShowsOffset.showsTime (h : ShowsOffset text t o) : ShowsTime text t := by
  obtain ⟨-, hreal, hfront⟩ := h
  exact ⟨hreal, (List.prefix_append _ _).trans hfront⟩

theorem ShowsOffset.unique (h : ShowsOffset text t o) (h' : ShowsOffset text t' o') :
    t = t' ∧ o = o' := by
  obtain rfl := h.showsTime.unique h'.showsTime
  obtain ⟨hoffset, -, rest, hrest⟩ := h
  obtain ⟨hoffset', -, rest', hrest'⟩ := h'
  have heq := hrest.trans hrest'.symm
  simp only [List.append_assoc] at heq
  exact ⟨rfl, hoffset.eq_of_append hoffset'
    (List.append_cancel_left (List.append_cancel_left heq))⟩

end Texts

section Format
variable {p : Preferences} {style : TimestampStyle} {m : Int} {text : String} {t : LocalTime}

theorem toList_format (p : Preferences) (style : TimestampStyle) (m : Int) :
    (p.format style (Instant.ofMillis m)).toList =
      localText (Instant.ofMillis m) (p.offsetAt (m / 1000)) ++
        ((if style.addOffset then " (UTC".toList ++ (offsetText (p.offsetAt (m / 1000)) ++ [')'])
          else []) ++
        if style.appendZone ∧ p.zoneName ≠ "" then ' ' :: p.zoneName.toList else []) := by
  have hsecond : (Instant.ofMillis m).second = m / 1000 := rfl
  have hspace : " ".toList = [' '] := rfl
  have hclose : ")".toList = [')'] := rfl
  have hnone : "".toList = [] := rfl
  simp only [Preferences.format, hsecond, apply_ite String.toList, String.toList_append,
    String.toList_ofList, hspace, hclose, hnone, List.append_assoc, List.singleton_append]

theorem showsTime_format (hyear : FourDigitYear (p.offsetAt (m / 1000)) m) :
    ShowsTime (p.format style (Instant.ofMillis m)) (localTime (p.offsetAt (m / 1000)) m) where
  real := hyear.real
  front := by
    rw [toList_format, ← hyear.localText_eq]
    exact List.prefix_append _ _

theorem eq_format (h : p.formatValue? style (.number (.int m)) = some text) :
    text = p.format style (Instant.ofMillis m) := by
  obtain ⟨instant, hinstant, rfl⟩ := Option.map_eq_some_iff.mp h
  simp only [instant?, Instant.ofMillis?, Option.ite_none_right_eq_some, Option.some.injEq]
    at hinstant
  rw [hinstant.2]

/-- Only a text of such a year begins with a local time. -/
theorem fourDigitYear_of_showsTime (ht : ShowsTime (p.format style (Instant.ofMillis m)) t) :
    FourDigitYear (p.offsetAt (m / 1000)) m := by
  by_contra hyear
  obtain ⟨c, rest, hlocal, hsign⟩ := exists_sign hyear
  obtain ⟨after, hafter⟩ := ht.front
  rw [toList_format, hlocal, List.cons_append] at hafter
  obtain ⟨hplus, hminus⟩ := LocalTime.text_ne_sign hafter
  cases hsign with
  | inl h => exact hplus h
  | inr h => exact hminus h

theorem millis_of_showsTime (h : p.formatValue? style (.number (.int m)) = some text)
    (ht : ShowsTime text t) : t.millis - 1000 * p.offsetAt (m / 1000) = m := by
  rw [eq_format h] at ht
  have hyear := fourDigitYear_of_showsTime ht
  rw [ht.unique (showsTime_format hyear), millis_localTime]
  omega

theorem showsOffset_format {o : Int} (ho : -1440 < o ∧ o < 1440)
    (hoffset : p.offsetAt (m / 1000) = 60 * o) (hshown : style.addOffset = true)
    (hyear : FourDigitYear (p.offsetAt (m / 1000)) m) :
    ShowsOffset (p.format style (Instant.ofMillis m)) (localTime (p.offsetAt (m / 1000)) m) o := by
  refine ⟨offsetText_offsetText ho, hyear.real, ?_⟩
  rw [toList_format, hyear.localText_eq, if_pos hshown, ← hoffset]
  exact (List.prefix_append_right_inj _).mpr (List.prefix_append _ _)

/-- With a fixed offset that is shown, the text alone says which instant it is. -/
theorem millis_of_showsOffset {o : Int} (hp : p.Fixed) (hshown : style.addOffset = true)
    (h : p.formatValue? style (.number (.int m)) = some text) (ht : ShowsOffset text t o) :
    60 * o = p.offsetAt (m / 1000) ∧ t.millis - 60000 * o = m := by
  have hmillis := millis_of_showsTime h ht.showsTime
  obtain ⟨o', ho', hoffset⟩ := hp.offsetAt_eq
  rw [eq_format h] at ht
  have hyear := fourDigitYear_of_showsTime ht.showsTime
  obtain ⟨-, rfl⟩ := ht.unique (showsOffset_format ho' (hoffset _) hshown hyear)
  rw [hoffset] at hmillis ⊢
  omega

end Format

/-- A shown timestamp denotes its instant: it begins with a local time, which less the offset in
force is the instant. With a fixed offset no other instant is shown alike; if the offset is shown,
it is the one in force, and not even with other fixed offsets is another instant shown alike. -/
theorem formatValue?_denotes {p : Preferences} (hp : p.Proper) {m : Int}
    (hyear : FourDigitYear (p.offsetAt (m / 1000)) m) (style : TimestampStyle) :
    ∃ text, p.formatValue? style (.number (.int m)) = some text ∧
      (∃ t, ShowsTime text t) ∧
      (∀ t, ShowsTime text t → t.millis - 1000 * p.offsetAt (m / 1000) = m) ∧
      (p.Fixed →
        (∀ style' m', p.formatValue? style' (.number (.int m')) = some text → m' = m) ∧
        (style.addOffset = true →
          (∃ t o, ShowsOffset text t o) ∧
          (∀ t o, ShowsOffset text t o →
            60 * o = p.offsetAt (m / 1000) ∧ t.millis - 60000 * o = m) ∧
          ∀ p' : Preferences, p'.Fixed → ∀ style' m', style'.addOffset = true →
            p'.formatValue? style' (.number (.int m')) = some text → m' = m)) := by
  have htext : p.formatValue? style (.number (.int m)) =
      some (p.format style (Instant.ofMillis m)) := by
    rw [Preferences.formatValue?, instant?, hyear.ofMillis? (hp.belowDay _)]
    rfl
  have htime : ShowsTime (p.format style (Instant.ofMillis m)) _ := showsTime_format hyear
  refine ⟨_, htext, ⟨_, htime⟩, fun t ht => millis_of_showsTime htext ht, ?_⟩
  intro hfixed
  obtain ⟨o, ho, hoffset⟩ := hfixed.offsetAt_eq
  refine ⟨?_, ?_⟩
  · intro style' m' h'
    have hmillis := millis_of_showsTime htext htime
    have hmillis' := millis_of_showsTime h' htime
    simp only [hoffset] at hmillis hmillis'
    omega
  · intro hshown
    have hboth := showsOffset_format ho (hoffset _) hshown hyear
    refine ⟨⟨_, _, hboth⟩, fun t o ht => millis_of_showsOffset hfixed hshown htext ht, ?_⟩
    intro p' hfixed' style' m' hshown' h'
    obtain ⟨-, hmillis⟩ := millis_of_showsOffset hfixed hshown htext hboth
    obtain ⟨-, hmillis'⟩ := millis_of_showsOffset hfixed' hshown' h' hboth
    omega

theorem formatValue?_denotes_of_before_1970 :
    ∃ text, (Preferences.ofZone "Lab time" (-90)).formatValue? .full (.number (.int (-1))) =
        some text ∧
      (∃ t o, ShowsOffset text t o) ∧
      ∀ t o, ShowsOffset text t o → o = -90 ∧ t.millis - 60000 * o = -1 := by
  have hfixed : (Preferences.ofZone "Lab time" (-90)).Fixed := ⟨-90, rfl⟩
  have hproper := Preferences.proper_ofZone ZoneTable.belowDay_offsetAt "Lab time" (-90)
  obtain ⟨text, htext, -, -, hdenotes⟩ :=
    formatValue?_denotes hproper (m := -1) ⟨by decide, by decide⟩ .full
  obtain ⟨-, hshown⟩ := hdenotes hfixed
  obtain ⟨hboth, hall, -⟩ := hshown rfl
  refine ⟨text, htext, hboth, ?_⟩
  intro t o ht
  have hoffset : (Preferences.ofZone "Lab time" (-90)).offsetAt (-1 / 1000) = -5400 := rfl
  obtain ⟨ho, hmillis⟩ := hall t o ht
  rw [hoffset] at ho
  exact ⟨by omega, hmillis⟩

end MessageInspector.Time
