import MessageInspector.Proofs.Text.Utf8
/-!
# Cut texts

What is read of a text whose bytes were cut at a limit. The characters whose bytes all fit are read as
they are. A limit inside a character leaves the first bytes of that character, which are one ill-formed
unit, however many of them are left.

Strict reading accepts exactly the bytes of texts, so that what is said of these holds of everything
that it accepts.
-/
namespace MessageInspector.Utf8

section Strict
variable {b b₁ b₂ b₃ : UInt8} {bytes rest after : List UInt8} {c : Char} {left lo hi bits : Nat}

theorem toNat_ofNat_of_valid {v : Nat} (valid : v.isValidChar) : (Char.ofNat v).toNat = v := by
  rw [Char.ofNat, dif_pos valid]
  rfl

theorem ofNat_eq_of_toNat {n : Nat} (h : n = b.toNat) : UInt8.ofNat n = b := by
  rw [h, UInt8.ofNat_toNat]

theorem encodeChar_two (lead : 0xC2 ≤ b.toNat ∧ b.toNat < 0xE0)
    (second : 0x80 ≤ b₁.toNat ∧ b₁.toNat ≤ 0xBF) :
    encodeChar (Char.ofNat ((b.toNat - 0xC0) * 0x40 + (b₁.toNat - 0x80))) = [b, b₁] := by
  generalize hv : (b.toNat - 0xC0) * 0x40 + (b₁.toNat - 0x80) = v
  have hvalid : v.isValidChar := .inl (by omega)
  simp only [encodeChar, toNat_ofNat_of_valid hvalid]
  rw [if_neg (by omega), if_pos (by omega)]
  simp only [List.cons.injEq, and_true]
  exact ⟨ofNat_eq_of_toNat (by omega), ofNat_eq_of_toNat (by omega)⟩

/-- A lead byte for three bytes. Overlong forms and surrogates are excluded by the second byte. -/
theorem encodeChar_three (lead : 0xE0 ≤ b.toNat ∧ b.toNat < 0xF0)
    (second : 0x80 ≤ b₁.toNat ∧ b₁.toNat ≤ 0xBF) (not_overlong : b.toNat = 0xE0 → 0xA0 ≤ b₁.toNat)
    (not_surrogate : b.toNat = 0xED → b₁.toNat ≤ 0x9F)
    (third : 0x80 ≤ b₂.toNat ∧ b₂.toNat ≤ 0xBF) :
    encodeChar (Char.ofNat (((b.toNat - 0xE0) * 0x40 + (b₁.toNat - 0x80)) * 0x40 +
      (b₂.toNat - 0x80))) = [b, b₁, b₂] := by
  generalize hv : ((b.toNat - 0xE0) * 0x40 + (b₁.toNat - 0x80)) * 0x40 + (b₂.toNat - 0x80) = v
  have hvalid : v.isValidChar := by
    simp only [Nat.isValidChar]
    omega
  simp only [encodeChar, toNat_ofNat_of_valid hvalid]
  rw [if_neg (by omega), if_neg (by omega), if_pos (by omega)]
  simp only [List.cons.injEq, and_true]
  exact ⟨ofNat_eq_of_toNat (by omega), ofNat_eq_of_toNat (by omega), ofNat_eq_of_toNat (by omega)⟩

theorem encodeChar_four (lead : 0xF0 ≤ b.toNat ∧ b.toNat < 0xF5)
    (second : 0x80 ≤ b₁.toNat ∧ b₁.toNat ≤ 0xBF) (not_overlong : b.toNat = 0xF0 → 0x90 ≤ b₁.toNat)
    (not_beyond : b.toNat = 0xF4 → b₁.toNat ≤ 0x8F) (third : 0x80 ≤ b₂.toNat ∧ b₂.toNat ≤ 0xBF)
    (fourth : 0x80 ≤ b₃.toNat ∧ b₃.toNat ≤ 0xBF) :
    encodeChar (Char.ofNat ((((b.toNat - 0xF0) * 0x40 + (b₁.toNat - 0x80)) * 0x40 +
      (b₂.toNat - 0x80)) * 0x40 + (b₃.toNat - 0x80))) = [b, b₁, b₂, b₃] := by
  generalize hv : (((b.toNat - 0xF0) * 0x40 + (b₁.toNat - 0x80)) * 0x40 + (b₂.toNat - 0x80)) * 0x40 +
    (b₃.toNat - 0x80) = v
  have hvalid : v.isValidChar := by
    simp only [Nat.isValidChar]
    omega
  simp only [encodeChar, toNat_ofNat_of_valid hvalid]
  rw [if_neg (by omega), if_neg (by omega), if_neg (by omega)]
  simp only [List.cons.injEq, and_true]
  exact ⟨ofNat_eq_of_toNat (by omega), ofNat_eq_of_toNat (by omega), ofNat_eq_of_toNat (by omega),
    ofNat_eq_of_toNat (by omega)⟩

theorem complete_succ_eq_some (h : complete (left + 1) lo hi bits rest = (some c, after)) :
    ∃ b tail, rest = b :: tail ∧ (lo ≤ b.toNat ∧ b.toNat ≤ hi) ∧
      complete left 0x80 0xBF (bits * 0x40 + (b.toNat - 0x80)) tail = (some c, after) := by
  cases rest with
  | nil => cases h
  | cons b tail =>
    rw [complete] at h
    split at h
    · rename_i within
      exact ⟨b, tail, rfl, within, h⟩
    · cases h

theorem complete_zero_eq_some (h : complete 0 lo hi bits rest = (some c, after)) :
    c = Char.ofNat bits ∧ rest = after := by
  obtain ⟨hc, hrest⟩ := Prod.mk.inj h
  exact ⟨(Option.some.inj hc).symm, hrest⟩

theorem encodeChar_of_unit (h : unit b rest = (some c, after)) :
    ∃ tail, rest = tail ++ after ∧ encodeChar c = b :: tail := by
  simp only [unit] at h
  split at h
  · obtain ⟨hc, hrest⟩ := Prod.mk.inj h
    have hvalue : (Char.ofNat b.toNat).toNat = b.toNat := toNat_ofNat_of_valid (.inl (by omega))
    refine ⟨[], hrest, ?_⟩
    rw [← Option.some.inj hc, encodeChar_of_ascii (by omega), hvalue, ofNat_eq_of_toNat rfl]
  split at h
  · cases h
  split at h
  · obtain ⟨b₁, tail, hrest, second, h⟩ := complete_succ_eq_some h
    obtain ⟨hc, htail⟩ := complete_zero_eq_some h
    refine ⟨[b₁], by rw [hrest, htail]; rfl, ?_⟩
    rw [hc]
    exact encodeChar_two (by omega) second
  split at h
  · obtain ⟨b₁, tail, hrest, second, h⟩ := complete_succ_eq_some h
    obtain ⟨b₂, tail, rfl, third, h⟩ := complete_succ_eq_some h
    obtain ⟨hc, htail⟩ := complete_zero_eq_some h
    refine ⟨[b₁, b₂], by rw [hrest, htail]; rfl, ?_⟩
    rw [hc]
    refine encodeChar_three (by omega) ?_ ?_ ?_ third
    all_goals split at second <;> split at second <;> omega
  split at h
  · obtain ⟨b₁, tail, hrest, second, h⟩ := complete_succ_eq_some h
    obtain ⟨b₂, tail, rfl, third, h⟩ := complete_succ_eq_some h
    obtain ⟨b₃, tail, rfl, fourth, h⟩ := complete_succ_eq_some h
    obtain ⟨hc, htail⟩ := complete_zero_eq_some h
    refine ⟨[b₁, b₂, b₃], by rw [hrest, htail]; rfl, ?_⟩
    rw [hc]
    refine encodeChar_four (by omega) ?_ ?_ ?_ third fourth
    all_goals split at second <;> split at second <;> omega
  · cases h

theorem bytes_of_units {cs : List Char} (h : units bytes = cs.map some) : bytes = encode cs := by
  induction cs generalizing bytes with
  | nil =>
    cases bytes with
    | nil => rfl
    | cons b rest =>
      rw [units] at h
      cases h
  | cons c cs ih =>
    cases bytes with
    | nil =>
      rw [units] at h
      cases h
    | cons b rest =>
      rw [units, List.map_cons] at h
      obtain ⟨hc, hcs⟩ := List.cons.inj h
      obtain ⟨tail, hrest, hbytes⟩ := encodeChar_of_unit (Prod.ext hc rfl)
      calc b :: rest = encodeChar c ++ (unit b rest).2 := by rw [hbytes, List.cons_append, ← hrest]
        _ = encodeChar c ++ encode cs := by rw [← ih hcs]
        _ = encode (c :: cs) := rfl

theorem mapM_id_eq_some {read : List (Option Char)} {cs : List Char} (h : read.mapM id = some cs) :
    read = cs.map some := by
  induction read generalizing cs with
  | nil => simp_all
  | cons first rest ih =>
    cases first with
    | none => simp at h
    | some c =>
      simp only [List.mapM_cons, id_eq, Option.bind_eq_bind, Option.bind_some,
        Option.bind_eq_some_iff, Option.pure_def, Option.some.injEq] at h
      obtain ⟨cs, hcs, rfl⟩ := h
      rw [ih hcs, List.map_cons]

/-- Strict reading accepts the bytes of texts, and nothing else. -/
theorem decode?_eq_some_iff {text : String} : decode? bytes = some text ↔ bytes = ofString text := by
  constructor
  · intro h
    obtain ⟨cs, hcs, rfl⟩ := Option.map_eq_some_iff.mp h
    rw [ofString_ofList]
    exact bytes_of_units (mapM_id_eq_some hcs)
  · rintro rfl
    exact decode?_ofString text

end Strict

theorem complete_take {left lo hi bits n : Nat} {used rest : List UInt8} {c : Char}
    (h : complete left lo hi bits (used ++ rest) = (some c, rest)) (hn : n < used.length) :
    complete left lo hi bits (used.take n) = (none, []) := by
  induction left generalizing lo hi bits used n with
  | zero =>
    obtain ⟨-, hrest⟩ := complete_zero_eq_some h
    have := congrArg List.length hrest
    rw [List.length_append] at this
    omega
  | succ left ih =>
    obtain ⟨b, tail, hbytes, within, h⟩ := complete_succ_eq_some h
    cases used with
    | nil => cases hn
    | cons first used =>
      obtain ⟨rfl, rfl⟩ := List.cons.inj hbytes
      cases n with
      | zero => rfl
      | succ n =>
        rw [List.take_succ_cons, complete_cons within]
        exact ih h (Nat.lt_of_succ_lt_succ hn)

/-- The first bytes of a character start it, but are not well-formed, and nothing is left after them. -/
theorem unit_take {b : UInt8} {used rest : List UInt8} {c : Char} {n : Nat}
    (h : unit b (used ++ rest) = (some c, rest)) (hn : n < used.length) :
    unit b (used.take n) = (none, []) := by
  simp only [unit] at h ⊢
  split at h
  · have := congrArg List.length (Prod.mk.inj h).2
    rw [List.length_append] at this
    omega
  rename_i hascii
  rw [if_neg hascii]
  split at h
  · cases h
  rename_i hlead
  rw [if_neg hlead]
  split at h
  · rename_i htwo
    rw [if_pos htwo]
    exact complete_take h hn
  rename_i htwo
  rw [if_neg htwo]
  split at h
  · rename_i hthree
    rw [if_pos hthree]
    exact complete_take h hn
  rename_i hthree
  rw [if_neg hthree]
  split at h
  · rename_i hfour
    rw [if_pos hfour]
    exact complete_take h hn
  · cases h

theorem units_take_encodeChar (c : Char) {n : Nat} (hpos : 0 < n) (hn : n < (encodeChar c).length) :
    units ((encodeChar c).take n) = [none] := by
  obtain ⟨b, tail, hbytes, hunit⟩ := unit_encodeChar c []
  rw [hbytes] at hn ⊢
  obtain ⟨n, rfl⟩ := Nat.exists_eq_succ_of_ne_zero (Nat.ne_of_gt hpos)
  rw [List.take_succ_cons, units, unit_take hunit (Nat.lt_of_succ_lt_succ hn), units]

/-- The longest start of a text whose bytes fit into a limit. -/
structure LongestFit (limit : Nat) (text whole : List Char) : Prop where
  leads : whole <+: text
  fits : (encode whole).length ≤ limit
  longest : ∀ other, other <+: text → (encode other).length ≤ limit → other <+: whole

/-- The limit leaves some of a character's bytes, but not all of them. -/
def FallsInside (limit : Nat) (text : List Char) : Prop :=
  ∃ front c back, text = front ++ c :: back ∧ (encode front).length < limit ∧
    limit < (encode (front ++ [c])).length

theorem exists_fit (limit : Nat) (text : List Char) :
    ∃ whole rest, text = whole ++ rest ∧ (encode whole).length ≤ limit ∧
      ∀ c back, rest = c :: back → limit < (encode (whole ++ [c])).length := by
  induction text generalizing limit with
  | nil => exact ⟨[], [], rfl, Nat.zero_le _, nofun⟩
  | cons first text ih =>
    have hcons (cs : List Char) :
        (encode (first :: cs)).length = (encodeChar first).length + (encode cs).length :=
      List.length_append
    by_cases hfirst : (encodeChar first).length ≤ limit
    · obtain ⟨whole, rest, rfl, hfits, hnext⟩ := ih (limit - (encodeChar first).length)
      refine ⟨first :: whole, rest, rfl, ?_, ?_⟩
      · rw [hcons]
        omega
      · intro c back hrest
        have := hnext c back hrest
        rw [List.cons_append, hcons]
        omega
    · refine ⟨[], first :: text, rfl, Nat.zero_le _, ?_⟩
      intro c back hrest
      obtain ⟨rfl, rfl⟩ := List.cons.inj hrest
      rw [List.nil_append, hcons]
      omega

section Cut
variable {limit : Nat} {whole rest : List Char}

theorem length_encode_le {part text : List Char} (h : part <+: text) :
    (encode part).length ≤ (encode text).length := by
  obtain ⟨rest, rfl⟩ := h
  rw [encode_append, List.length_append]
  omega

theorem longestFit_of_next (fits : (encode whole).length ≤ limit)
    (next : ∀ c back, rest = c :: back → limit < (encode (whole ++ [c])).length) :
    LongestFit limit (whole ++ rest) whole := by
  refine ⟨List.prefix_append _ _, fits, ?_⟩
  intro other hother hfits
  rcases List.prefix_or_prefix_of_prefix hother (List.prefix_append whole rest) with hle | ⟨more, rfl⟩
  · exact hle
  · cases more with
    | nil => simp
    | cons c more =>
      obtain ⟨back, hrest⟩ := (List.prefix_append_right_inj whole).mp hother
      have hnext := next c (more ++ back) hrest.symm
      have hlonger : whole ++ [c] <+: whole ++ c :: more := by simp
      have := length_encode_le hlonger
      omega

theorem fallsInside_iff (fits : (encode whole).length ≤ limit)
    (next : ∀ c back, rest = c :: back → limit < (encode (whole ++ [c])).length) :
    FallsInside limit (whole ++ rest) ↔ rest ≠ [] ∧ (encode whole).length < limit := by
  constructor
  · rintro ⟨front, c, back, htext, hbefore, hafter⟩
    have hfront : front <+: whole ++ rest := by
      rw [htext]
      exact List.prefix_append _ _
    obtain ⟨more, rfl⟩ := (longestFit_of_next fits next).longest front hfront (Nat.le_of_lt hbefore)
    rw [List.append_assoc, List.append_cancel_left_eq] at htext
    cases more with
    | nil =>
      rw [List.nil_append] at htext
      rw [List.append_nil]
      exact ⟨by simp [htext], hbefore⟩
    | cons first more =>
      obtain ⟨rfl, -⟩ := List.cons.inj htext
      have hshorter : front ++ [first] <+: front ++ first :: more := by simp
      have := length_encode_le hshorter
      omega
  · rintro ⟨hrest, hlt⟩
    cases rest with
    | nil => exact absurd rfl hrest
    | cons c back => exact ⟨whole, c, back, rfl, hlt, next c back rfl⟩

/-- The bytes before the limit are those of the characters that fit and, if the limit falls inside the
next one, one ill-formed unit. -/
theorem units_take_encode (fits : (encode whole).length ≤ limit)
    (next : ∀ c back, rest = c :: back → limit < (encode (whole ++ [c])).length) :
    units ((encode (whole ++ rest)).take limit) = whole.map some ++
      if rest ≠ [] ∧ (encode whole).length < limit then [none] else [] := by
  rw [encode_append, List.take_append, List.take_of_length_le fits, units_encode_append]
  congr 1
  cases rest with
  | nil => simp [encode, units]
  | cons c back =>
    have hnext := next c back rfl
    rw [encode_append, List.length_append] at hnext
    have hsingle : encode [c] = encodeChar c := List.append_nil _
    rw [hsingle] at hnext
    have htake : (encode (c :: back)).take (limit - (encode whole).length) =
        (encodeChar c).take (limit - (encode whole).length) :=
      List.take_append_of_le_length (by omega)
    rw [htake]
    by_cases hlt : (encode whole).length < limit
    · rw [if_pos ⟨List.cons_ne_nil _ _, hlt⟩]
      exact units_take_encodeChar c (by omega) (by omega)
    · rw [if_neg (fun h => hlt h.2), Nat.sub_eq_zero_of_le (Nat.le_of_not_lt hlt), List.take_zero,
        units]

end Cut

/-- A cut text reads as its longest start that fits, and one replacement character after it if the
limit falls inside a character. -/
theorem decodeLossy_take_encode (limit : Nat) (text : List Char) :
    ∃ whole, LongestFit limit text whole ∧
      (FallsInside limit text →
        decodeLossy ((encode text).take limit) = String.ofList (whole ++ ['\uFFFD'])) ∧
      (¬ FallsInside limit text → decodeLossy ((encode text).take limit) = String.ofList whole) := by
  obtain ⟨whole, rest, rfl, fits, next⟩ := exists_fit limit text
  have hwhole : (whole.map some).map (·.getD '\uFFFD') = whole := by
    rw [List.map_map]
    exact List.map_id _
  refine ⟨whole, longestFit_of_next fits next, ?_, ?_⟩
  · intro inside
    rw [fallsInside_iff fits next] at inside
    rw [decodeLossy, units_take_encode fits next, if_pos inside, List.map_append, hwhole]
    rfl
  · intro outside
    rw [fallsInside_iff fits next] at outside
    rw [decodeLossy, units_take_encode fits next, if_neg outside, List.append_nil, hwhole]

end MessageInspector.Utf8
