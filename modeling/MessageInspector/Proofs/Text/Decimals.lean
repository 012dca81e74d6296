import Mathlib.Algebra.Group.Nat.Defs
import Mathlib.Data.List.Basic
import MessageInspector.Text.Decimal
/-!
# What a decimal text denotes

A settings value is read if it is a number with digits only after its sign, and is then that number.
-/
namespace MessageInspector.Decimal

structure DigitsText (cs : List Char) (n : Nat) : Prop where
  nonempty : cs ≠ []
  digits : ∀ c ∈ cs, c.isDigit = true
  value : Nat.ofDigitChars 10 cs 0 = n

inductive UnsignedText : List Char → Nat → Prop
  | bare {ds n} : DigitsText ds n → UnsignedText ds n
  | plus {ds n} : DigitsText ds n → UnsignedText ('+' :: ds) n

inductive SignedText : List Char → Int → Prop
  | unsigned {cs} {n : Nat} : UnsignedText cs n → SignedText cs n
  | minus {ds n} : DigitsText ds n → SignedText ('-' :: ds) (-(n : Int))

variable {cs : List Char}

theorem natural?_eq_some {n : Nat} : natural? cs = some n ↔ DigitsText cs n := by
  have hdigit : isDigit = Char.isDigit := rfl
  have hvalue : cs.foldl (fun n c => n * 10 + (c.toNat - '0'.toNat)) 0 =
      Nat.ofDigitChars 10 cs 0 := by
    simp only [Nat.ofDigitChars, Nat.mul_comm]
  rw [natural?, hvalue, hdigit]
  constructor
  · intro h
    split at h
    · cases h
    · rename_i hvalid
      simp only [Bool.or_eq_true, List.isEmpty_iff, Bool.not_eq_true', not_or, Bool.not_eq_false,
        List.all_eq_true] at hvalid
      exact ⟨hvalid.1, hvalid.2, Option.some.inj h⟩
  · rintro ⟨hne, hdigits, rfl⟩
    have hvalid : ¬ (cs.isEmpty || !cs.all Char.isDigit) = true := by
      simpa [hne] using hdigits
    rw [if_neg hvalid]

theorem DigitsText.not_sign {c : Char} {ds : List Char} {n : Nat} (h : DigitsText (c :: ds) n) :
    c ≠ '+' ∧ c ≠ '-' := by
  have hc := h.digits c List.mem_cons_self
  constructor
  · rintro rfl
    cases hc
  · rintro rfl
    cases hc

theorem unsigned?_of_no_plus (h : ∀ ds, cs ≠ '+' :: ds) : unsigned? cs = natural? cs := by
  rw [unsigned?]
  exact h

theorem unsigned?_eq_some {n : Nat} : unsigned? cs = some n ↔ UnsignedText cs n := by
  constructor
  · intro h
    by_cases hplus : ∃ ds, cs = '+' :: ds
    · obtain ⟨ds, rfl⟩ := hplus
      exact .plus (natural?_eq_some.mp h)
    · rw [unsigned?_of_no_plus fun ds hcs => hplus ⟨ds, hcs⟩] at h
      exact .bare (natural?_eq_some.mp h)
  · intro h
    cases h with
    | plus hds => exact natural?_eq_some.mpr hds
    | bare hds =>
      rw [unsigned?_of_no_plus, natural?_eq_some]
      · exact hds
      · rintro ds rfl
        exact hds.not_sign.1 rfl

theorem signed?_of_no_minus (h : ∀ ds, cs ≠ '-' :: ds) :
    signed? cs = (unsigned? cs).map Int.ofNat := by
  rw [signed?.eq_def, unsigned?.eq_def]
  split
  · rfl
  · exact absurd rfl (h _)
  · rename_i hplus _
    split
    · exact absurd rfl (hplus _)
    · rfl

theorem signed?_eq_some {z : Int} : signed? cs = some z ↔ SignedText cs z := by
  constructor
  · intro h
    by_cases hminus : ∃ ds, cs = '-' :: ds
    · obtain ⟨ds, rfl⟩ := hminus
      obtain ⟨n, hn, rfl⟩ := Option.map_eq_some_iff.mp h
      exact .minus (natural?_eq_some.mp hn)
    · rw [signed?_of_no_minus fun ds hcs => hminus ⟨ds, hcs⟩] at h
      obtain ⟨n, hn, rfl⟩ := Option.map_eq_some_iff.mp h
      exact .unsigned (unsigned?_eq_some.mp hn)
  · intro h
    cases h with
    | @minus ds n hds => exact Option.map_eq_some_iff.mpr ⟨n, natural?_eq_some.mpr hds, rfl⟩
    | @unsigned _ n hcs =>
      have hminus : ∀ ds, cs ≠ '-' :: ds := by
        rintro ds rfl
        cases hcs with
        | bare hds => exact hds.not_sign.2 rfl
      rw [signed?_of_no_minus hminus]
      exact Option.map_eq_some_iff.mpr ⟨n, unsigned?_eq_some.mpr hcs, rfl⟩

/-! ## Writing -/

theorem toNat_of_isDigit {c : Char} (h : c.isDigit = true) :
    '0'.toNat ≤ c.toNat ∧ c.toNat - '0'.toNat < 10 := by
  rw [Char.isDigit_iff_toNat] at h
  have hnine : '9'.toNat - '0'.toNat < 10 := by decide
  omega

theorem digitChar_of_isDigit {c : Char} (h : c.isDigit = true) :
    Nat.digitChar (c.toNat - '0'.toNat) = c := by
  obtain ⟨hlow, hhigh⟩ := toNat_of_isDigit h
  apply Char.toNat_inj.mp
  rw [Nat.toNat_digitChar_of_lt_ten hhigh]
  exact Nat.add_sub_cancel' hlow

theorem toDigits_append {n : Nat} (positive : 0 < n) (digits : ∀ c ∈ cs, c.isDigit = true) :
    Nat.toDigits 10 n ++ cs = Nat.toDigits 10 (Nat.ofDigitChars 10 cs n) := by
  induction cs generalizing n with
  | nil => simp
  | cons c cs ih =>
    have hc := digitChar_of_isDigit (digits c List.mem_cons_self)
    have hsmall := (toNat_of_isDigit (digits c List.mem_cons_self)).2
    have hfirst : Nat.toDigits 10 n ++ [c] = Nat.toDigits 10 (10 * n + (c.toNat - '0'.toNat)) := by
      rw [← Nat.toDigits_append_toDigits (by decide) positive hsmall,
        Nat.toDigits_of_lt_base hsmall, hc]
    have hrest := ih (n := 10 * n + (c.toNat - '0'.toNat)) (by omega)
      fun d hd => digits d (List.mem_cons_of_mem _ hd)
    rw [Nat.ofDigitChars_cons, ← hrest, ← hfirst, List.append_assoc, List.singleton_append]

/-- Without a superfluous zero in front, a number is written in one way. -/
theorem DigitsText.eq_toDigits {n : Nat} (h : DigitsText cs n)
    (lead : ∀ rest, cs = '0' :: rest → rest = []) : cs = Nat.toDigits 10 n := by
  obtain ⟨hne, hdigits, rfl⟩ := h
  obtain ⟨c, rest, rfl⟩ := List.exists_cons_of_ne_nil hne
  by_cases hzero : c = '0'
  · subst hzero
    rw [lead rest rfl]
    rfl
  · have hc := hdigits c List.mem_cons_self
    obtain ⟨hlow, hhigh⟩ := toNat_of_isDigit hc
    have positive : 0 < c.toNat - '0'.toNat := by
      have hne : c.toNat ≠ '0'.toNat := fun heq => hzero (Char.toNat_inj.mp heq)
      omega
    have hwhole := toDigits_append positive fun d hd => hdigits d (List.mem_cons_of_mem _ hd)
    rw [Nat.toDigits_of_lt_base hhigh, digitChar_of_isDigit hc, List.singleton_append] at hwhole
    rw [Nat.ofDigitChars_cons, Nat.mul_zero, Nat.zero_add]
    exact hwhole

theorem digitsText_toDigits (n : Nat) : DigitsText (Nat.toDigits 10 n) n where
  nonempty := Nat.toDigits_ne_nil
  digits := fun _ hc => Nat.isDigit_of_mem_toDigits (by decide) (by decide) hc
  value := Nat.ofDigitChars_toDigits (by decide) (by decide)

theorem lead_toDigits {n : Nat} {rest : List Char} (h : Nat.toDigits 10 n = '0' :: rest) :
    rest = [] := by
  induction n using Nat.strongRecOn generalizing rest with
  | ind n ih =>
    by_cases hn : n < 10
    · rw [Nat.toDigits_of_lt_base hn] at h
      exact (List.cons.inj h).2.symm
    · rw [Nat.toDigits_of_base_le (by decide) (by omega)] at h
      obtain ⟨c, front, hfront⟩ := List.exists_cons_of_ne_nil (Nat.toDigits_ne_nil (b := 10)
        (n := n / 10))
      rw [hfront] at h
      obtain ⟨rfl, -⟩ := List.cons.inj h
      obtain rfl := ih (n / 10) (by omega) hfront
      have hvalue := (digitsText_toDigits (n / 10)).value
      rw [hfront] at hvalue
      have hnone : Nat.ofDigitChars 10 ['0'] 0 = 0 := rfl
      omega

theorem digitsText_padded (width n : Nat) : DigitsText (padded width n) n where
  nonempty := by simp [padded, Nat.toDigits_ne_nil]
  digits := by
    intro c hc
    obtain hc | hc := List.mem_append.mp hc
    · rw [List.eq_of_mem_replicate hc]
      rfl
    · exact (digitsText_toDigits n).digits c hc
  value := by
    rw [padded, Nat.ofDigitChars_append, Nat.ofDigitChars_replicate_zero, Nat.mul_zero]
    exact (digitsText_toDigits n).value

theorem length_padded {width n : Nat} (hwidth : 0 < width) (h : n < 10 ^ width) :
    (padded width n).length = width := by
  have hfits := (Nat.length_toDigits_le_iff (b := 10) (by decide) hwidth).mpr h
  simp only [padded, List.length_append, List.length_replicate]
  omega

theorem padded_append_inj {width a b : Nat} {rest rest' : List Char} (hwidth : 0 < width)
    (ha : a < 10 ^ width) (hb : b < 10 ^ width)
    (h : padded width a ++ rest = padded width b ++ rest') : a = b ∧ rest = rest' := by
  have hlength : (padded width a).length = (padded width b).length := by
    rw [length_padded hwidth ha, length_padded hwidth hb]
  obtain ⟨hdigits, hrest⟩ := List.append_inj h hlength
  have hvalue := (digitsText_padded width a).value
  rw [hdigits, (digitsText_padded width b).value] at hvalue
  exact ⟨hvalue.symm, hrest⟩

end MessageInspector.Decimal
