import MessageInspector.Json.Numeral
import MessageInspector.Proofs.Json.Brackets
/-!
# Numbers end where they cannot go on

A number has no closing byte: it takes all digits that it finds. What it takes is the same before
every text that starts with the byte at which it stopped, and at the end of the text.
-/
namespace MessageInspector.Json
open Scan
variable {s : List UInt8}

theorem takeDigits_of_stop (h : ∀ b ∈ s.head?, Byte.isDigit b = false) :
    takeDigits s = ([], s) := by
  cases s with
  | nil => rfl
  | cons b s => simp [takeDigits, h b rfl]

theorem framed_takeDigits (s : List UInt8) : ∃ taken, s = taken ++ (takeDigits s).2 ∧
    ∀ other, Follows (takeDigits s).2 other →
      takeDigits (taken ++ other) = ((takeDigits s).1, other) := by
  induction s with
  | nil => exact ⟨[], rfl, fun other follows => takeDigits_of_stop (follows.stops nofun)⟩
  | cons b s ih =>
    by_cases hb : Byte.isDigit b = true
    · obtain ⟨taken, hs, hall⟩ := ih
      simp only [takeDigits, if_pos hb]
      refine ⟨b :: taken, congrArg (b :: ·) hs, ?_⟩
      intro other follows
      simp only [List.cons_append, takeDigits, if_pos hb, hall other follows]
    · have hstop : ∀ c ∈ (b :: s).head?, Byte.isDigit c = false := by simpa using hb
      rw [takeDigits_of_stop hstop]
      exact ⟨[], rfl, fun other follows => takeDigits_of_stop (follows.stops hstop)⟩

theorem needDigits_eq_ok {ds : List Nat} {rest : List UInt8} :
    needDigits s = .ok (ds, rest) ↔ takeDigits s = (ds, rest) ∧ ds ≠ [] := by
  rw [needDigits]
  generalize takeDigits s = r
  obtain ⟨ds', rest'⟩ := r
  cases ds' with
  | nil =>
    have hnot : ¬ ((([] : List Nat), rest') = (ds, rest) ∧ ds ≠ []) := by
      rintro ⟨h, hne⟩
      cases h
      exact hne rfl
    constructor
    · intro h
      cases rest' <;> cases h
    · intro h
      exact absurd h hnot
  | cons d ds' =>
    simp only [Except.ok.injEq, iff_self_and]
    rintro h rfl
    cases h

theorem framedAt_needDigits (s : List UInt8) : FramedAt needDigits s := by
  intro ds rest h
  obtain ⟨hdigits, hne⟩ := needDigits_eq_ok.mp h
  obtain ⟨taken, hs, hall⟩ := framed_takeDigits s
  rw [hdigits] at hs hall
  exact ⟨taken, hs, fun other follows => needDigits_eq_ok.mpr ⟨hall other follows, hne⟩⟩

def sign : Scan Bool := fun s => .ok (exponentSign s)

theorem sign_of_stop (h : ∀ b ∈ s.head?, b ≠ Byte.plus ∧ b ≠ Byte.minus) :
    sign s = .ok (false, s) := by
  cases s with
  | nil => rfl
  | cons b s =>
    obtain ⟨hplus, hminus⟩ := h b rfl
    simp only [sign, exponentSign, if_neg hplus, if_neg hminus]

theorem framedAt_sign (s : List UInt8) : sign.FramedAt s := by
  intro negative rest h
  by_cases hplus : s.head? = some Byte.plus
  · obtain ⟨t, rfl⟩ := List.head?_eq_some_iff.mp hplus
    cases h
    exact ⟨[Byte.plus], rfl, fun other _ => rfl⟩
  by_cases hminus : s.head? = some Byte.minus
  · obtain ⟨t, rfl⟩ := List.head?_eq_some_iff.mp hminus
    cases h
    exact ⟨[Byte.minus], rfl, fun other _ => rfl⟩
  · have hstop : ∀ b ∈ s.head?, b ≠ Byte.plus ∧ b ≠ Byte.minus := by
      intro b hb
      constructor
      · rintro rfl
        exact hplus hb
      · rintro rfl
        exact hminus hb
    rw [sign_of_stop hstop] at h
    cases h
    exact ⟨[], rfl, fun other follows => sign_of_stop (follows.stops hstop)⟩

theorem framedAt_withExponent (negative : Bool) (significand : Nat) (shift : Int)
    (s : List UInt8) : FramedAt (withExponent negative significand shift) s := by
  have hscan : withExponent negative significand shift =
      sign.andThen fun e => Scan.andThen needDigits fun ds =>
        yield (assemble negative significand shift e (valueOfDigits ds)) := by
    funext s
    have hsign : sign s = .ok ((exponentSign s).1, (exponentSign s).2) := rfl
    rw [andThen_of_ok hsign, withExponent]
    cases hdigits : needDigits (exponentSign s).2 with
    | error fault => rw [andThen_of_error hdigits]
    | ok x =>
      rw [andThen_of_ok hdigits]
      simp only [yield]
      cases assemble negative significand shift (exponentSign s).1 (valueOfDigits x.1) <;> rfl
  rw [hscan]
  apply (framedAt_sign s).andThen
  intro e rest _
  apply (framedAt_needDigits rest).andThen
  intro ds rest' _
  exact framedAt_yield _

/-- A number that is complete as it stands, unless an exponent follows. -/
def unlessExponent (number : Except Fault Number) (exponent : Scan Number) : Scan Number
  | [] => number.map (·, [])
  | b :: rest => if isExponentMark b then exponent rest else number.map (·, b :: rest)

theorem unlessExponent_of_stop (number : Except Fault Number) (exponent : Scan Number)
    (h : ∀ b ∈ s.head?, isExponentMark b = false) :
    unlessExponent number exponent s = yield number s := by
  cases s with
  | nil => rfl
  | cons b s =>
    have hmark : ¬ isExponentMark b = true := by simp [h b rfl]
    rw [unlessExponent, if_neg hmark]
    rfl

theorem framedAt_unlessExponent {number : Except Fault Number} {exponent : Scan Number}
    (h : ∀ s, exponent.FramedAt s) (s : List UInt8) :
    (unlessExponent number exponent).FramedAt s := by
  intro n rest hn
  by_cases hstop : ∀ b ∈ s.head?, isExponentMark b = false
  · rw [unlessExponent_of_stop number exponent hstop] at hn
    obtain ⟨hnumber, rfl⟩ := yield_eq_ok.mp hn
    refine ⟨[], rfl, ?_⟩
    intro other follows
    rw [List.nil_append, unlessExponent_of_stop number exponent (follows.stops hstop)]
    exact yield_eq_ok.mpr ⟨hnumber, rfl⟩
  · cases s with
    | nil => exact absurd nofun hstop
    | cons b t =>
      have hmark : isExponentMark b = true := by simpa using hstop
      simp only [unlessExponent, if_pos hmark] at hn
      obtain ⟨taken, rfl, hall⟩ := h t n rest hn
      refine ⟨b :: taken, rfl, ?_⟩
      intro other follows
      simp only [List.cons_append, unlessExponent, if_pos hmark]
      exact hall other follows

section AfterWhole
variable (negative : Bool) (significand dropped : Nat)

def fraction : Scan Number :=
  Scan.andThen needDigits fun ds =>
    let part := absorbFraction significand ds
    unlessExponent (assemble negative part.1 (dropped - part.2) false 0)
      (withExponent negative part.1 (dropped - part.2))

theorem framedAt_fraction (s : List UInt8) : (fraction negative significand dropped).FramedAt s := by
  apply (framedAt_needDigits s).andThen
  intro ds rest _
  exact framedAt_unlessExponent (framedAt_withExponent negative _ _) rest

theorem afterWhole_point (s : List UInt8) :
    afterWhole negative significand dropped (Byte.point :: s) =
      fraction negative significand dropped s := by
  simp only [fraction, Scan.andThen, afterWhole, if_true]
  cases needDigits s with
  | error fault => rfl
  | ok x =>
    obtain ⟨ds, rest⟩ := x
    cases rest <;> rfl

theorem afterWhole_no_point (h : ∀ b ∈ s.head?, b ≠ Byte.point) :
    afterWhole negative significand dropped s =
      unlessExponent (wholeNumber negative significand dropped)
        (withExponent negative significand dropped) s := by
  cases s with
  | nil => rfl
  | cons b t => simp only [afterWhole, if_neg (h b rfl), unlessExponent]

theorem framedAt_afterWhole (s : List UInt8) :
    FramedAt (afterWhole negative significand dropped) s := by
  intro n rest h
  by_cases hpoint : s.head? = some Byte.point
  · obtain ⟨t, rfl⟩ := List.head?_eq_some_iff.mp hpoint
    rw [afterWhole_point] at h
    obtain ⟨taken, rfl, hall⟩ := framedAt_fraction negative significand dropped t n rest h
    refine ⟨Byte.point :: taken, rfl, ?_⟩
    intro other follows
    rw [List.cons_append, afterWhole_point]
    exact hall other follows
  · have hother : ∀ b ∈ s.head?, b ≠ Byte.point := by
      rintro b hb rfl
      exact hpoint hb
    rw [afterWhole_no_point _ _ _ hother] at h
    obtain ⟨taken, rfl, hall⟩ :=
      framedAt_unlessExponent (framedAt_withExponent negative _ _) s n rest h
    refine ⟨taken, rfl, ?_⟩
    intro other follows
    rw [afterWhole_no_point _ _ _ ((follows.append taken).stops hother)]
    exact hall other follows

end AfterWhole

theorem framedAt_unsignedNumber (negative : Bool) (s : List UInt8) :
    FramedAt (unsignedNumber negative) s := by
  have hscan : unsignedNumber negative = Scan.andThen needDigits fun ds =>
      if ds.head? = some 0 ∧ 1 < ds.length then fail .illFormed
      else afterWhole negative (absorbWhole 0 ds).1 (absorbWhole 0 ds).2 := by
    funext s
    rw [Scan.andThen, unsignedNumber]
    cases needDigits s with
    | error fault => rfl
    | ok x =>
      by_cases hzero : x.1.head? = some 0 ∧ 1 < x.1.length
      · simp only [if_pos hzero]
        rfl
      · simp only [if_neg hzero]
  rw [hscan]
  apply (framedAt_needDigits s).andThen
  intro ds rest _
  split
  · exact framedAt_fail _
  · exact framedAt_afterWhole _ _ _ rest

def signedNumber : Scan Number
  | [] => .error .incomplete
  | b :: rest => if b = Byte.minus then unsignedNumber true rest else unsignedNumber false (b :: rest)

theorem framedAt_signedNumber (s : List UInt8) : signedNumber.FramedAt s := by
  intro n rest h
  cases s with
  | nil => cases h
  | cons b t =>
    by_cases hminus : b = Byte.minus
    · simp only [signedNumber, if_pos hminus] at h
      obtain ⟨taken, rfl, hall⟩ := framedAt_unsignedNumber true t n rest h
      refine ⟨b :: taken, rfl, ?_⟩
      intro other follows
      simp only [List.cons_append, signedNumber, if_pos hminus]
      exact hall other follows
    · simp only [signedNumber, if_neg hminus] at h
      obtain ⟨taken, hs, hall⟩ := framedAt_unsignedNumber false (b :: t) n rest h
      cases taken with
      | nil =>
        have hempty := hall [] (.inl rfl)
        cases hempty
      | cons c taken =>
        obtain ⟨rfl, rfl⟩ := List.cons.inj hs
        refine ⟨b :: taken, rfl, ?_⟩
        intro other follows
        simp only [List.cons_append, signedNumber, if_neg hminus]
        exact hall other follows

theorem scan_numeral : Reader.scan numeral = blanks.andThen fun _ => signedNumber := by
  funext s
  have hblanks : blanks s = .ok ((), skipBlanks s) := rfl
  rw [andThen_of_ok hblanks]
  simp only [Reader.scan, Reader.run, numeral]
  split
  · rename_i hs
    rw [hs]
    rfl
  · rename_i b rest hs
    have hsigned : signedNumber (skipBlanks s) = signedNumber (b :: rest) := congrArg _ hs
    rw [hsigned, signedNumber]
    by_cases hminus : b = Byte.minus
    · simp only [if_pos hminus]
      split
      · rename_i fault hn
        exact hn.symm
      · rename_i n t hn
        exact hn.symm
    · simp only [if_neg hminus]
      split
      · rename_i fault hn
        exact hn.symm
      · rename_i n t hn
        exact hn.symm

theorem framedAt_numeral (s : List UInt8) : (Reader.scan numeral).FramedAt s := by
  rw [scan_numeral]
  apply (framedAt_blanks s).andThen
  intro _ rest _
  exact framedAt_signedNumber rest

theorem visible_numeral : (Reader.scan numeral).Visible := by
  intro s n rest h hblank
  have hblanks : blanks s = .ok ((), []) := congrArg (fun t => Except.ok ((), t)) hblank
  rw [scan_numeral, andThen_of_ok hblanks] at h
  cases h

end MessageInspector.Json
