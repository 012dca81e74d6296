import Mathlib.Data.List.Basic
import MessageInspector.Text.Utf8
/-!
# Reading encoded texts back

The bytes of a character are one well-formed unit whatever follows them, so the bytes of a text read
back as that text. A character beyond ASCII has no ASCII byte among its bytes.
-/
namespace MessageInspector.Utf8

theorem encodeChar_of_ascii {c : Char} (h : c.toNat < 0x80) :
    encodeChar c = [UInt8.ofNat c.toNat] := by
  simp only [encodeChar, h, if_true]

theorem le_of_mem_encodeChar {c : Char} (h : ¬ c.toNat < 0x80) {b : UInt8}
    (hb : b ∈ encodeChar c) : 0x80 ≤ b.toNat := by
  have hvalid : c.toNat < 0xD800 ∨ 0xDFFF < c.toNat ∧ c.toNat < 0x110000 := c.valid
  simp only [encodeChar, h, if_false] at hb
  repeat' split at hb
  all_goals
    simp only [List.mem_cons, List.not_mem_nil, or_false] at hb
    rcases hb with rfl | rfl | rfl | rfl <;> simp only [UInt8.toNat_ofNat'] <;> omega

theorem complete_cons {left lo hi bits : Nat} {b : UInt8} {rest : List UInt8}
    (h : lo ≤ b.toNat ∧ b.toNat ≤ hi) :
    complete (left + 1) lo hi bits (b :: rest) =
      complete left 0x80 0xBF (bits * 0x40 + (b.toNat - 0x80)) rest := by
  rw [complete, if_pos h]

/-- The bytes of a character are one unit, whatever follows them. -/
theorem unit_encodeChar (c : Char) (rest : List UInt8) :
    ∃ b tail, encodeChar c = b :: tail ∧ unit b (tail ++ rest) = (some c, rest) := by
  have hvalid : c.toNat < 0xD800 ∨ 0xDFFF < c.toNat ∧ c.toNat < 0x110000 := c.valid
  have hc {bits : Nat} (h : bits = c.toNat) : (some (Char.ofNat bits), rest) = (some c, rest) := by
    rw [h, Char.ofNat_toNat]
  have hbyte {n : Nat} (h : n < 0x100) : (UInt8.ofNat n).toNat = n := UInt8.toNat_ofNat_of_lt' h
  simp only [encodeChar]
  generalize c.toNat = v at hc hvalid
  split
  · refine ⟨_, _, rfl, ?_⟩
    have hlead := hbyte (n := v) (by omega)
    simp only [unit, hlead, List.nil_append]
    rw [if_pos (by omega)]
    exact hc rfl
  split
  · refine ⟨_, _, rfl, ?_⟩
    have hlead := hbyte (n := 0xC0 + v / 0x40) (by omega)
    have hlast := hbyte (n := 0x80 + v % 0x40) (by omega)
    simp only [unit, hlead, List.cons_append, List.nil_append]
    rw [if_neg (by omega), if_neg (by omega), if_pos (by omega),
      complete_cons (by omega), hlast]
    exact hc (by omega)
  split
  · refine ⟨_, _, rfl, ?_⟩
    have hlead := hbyte (n := 0xE0 + v / 0x1000) (by omega)
    have hsecond := hbyte (n := 0x80 + v / 0x40 % 0x40) (by omega)
    have hlast := hbyte (n := 0x80 + v % 0x40) (by omega)
    simp only [unit, hlead, List.cons_append, List.nil_append]
    rw [if_neg (by omega), if_neg (by omega), if_neg (by omega), if_pos (by omega),
      complete_cons (by split <;> split <;> omega), hsecond, complete_cons (by omega), hlast]
    exact hc (by omega)
  · refine ⟨_, _, rfl, ?_⟩
    have hlead := hbyte (n := 0xF0 + v / 0x40000) (by omega)
    have hsecond := hbyte (n := 0x80 + v / 0x1000 % 0x40) (by omega)
    have hthird := hbyte (n := 0x80 + v / 0x40 % 0x40) (by omega)
    have hlast := hbyte (n := 0x80 + v % 0x40) (by omega)
    simp only [unit, hlead, List.cons_append, List.nil_append]
    rw [if_neg (by omega), if_neg (by omega), if_neg (by omega), if_neg (by omega),
      if_pos (by omega), complete_cons (by split <;> split <;> omega), hsecond,
      complete_cons (by omega), hthird, complete_cons (by omega), hlast]
    exact hc (by omega)

theorem units_encodeChar (c : Char) (rest : List UInt8) :
    units (encodeChar c ++ rest) = some c :: units rest := by
  obtain ⟨b, tail, hbytes, hunit⟩ := unit_encodeChar c rest
  rw [hbytes, List.cons_append, units, hunit]

theorem units_encode_append (cs : List Char) (rest : List UInt8) :
    units (encode cs ++ rest) = cs.map some ++ units rest := by
  induction cs with
  | nil => rfl
  | cons c cs ih =>
    have hcons : encode (c :: cs) ++ rest = encodeChar c ++ (encode cs ++ rest) :=
      List.append_assoc _ _ _
    rw [hcons, units_encodeChar, ih, List.map_cons, List.cons_append]

theorem units_encode (cs : List Char) : units (encode cs) = cs.map some := by
  have h := units_encode_append cs []
  rwa [List.append_nil, units, List.append_nil] at h

theorem decode?_ofString (s : String) : decode? (ofString s) = some s := by
  have hall : (s.toList.map some).mapM id = some s.toList := by
    rw [List.mapM_map]
    exact List.mapM_pure (f := id) |>.trans (congrArg some (List.map_id _))
  rw [decode?, ofString, units_encode, hall, Option.map_some, String.ofList_toList]

theorem encode_append (front back : List Char) :
    encode (front ++ back) = encode front ++ encode back :=
  List.flatMap_append

theorem ofString_append (s t : String) : ofString (s ++ t) = ofString s ++ ofString t := by
  rw [ofString, String.toList_append, encode_append]
  rfl

theorem ofString_ofList (cs : List Char) : ofString (String.ofList cs) = encode cs := by
  rw [ofString, String.toList_ofList]

theorem ofString_intercalate (separator : String) (texts : List String) :
    ofString (separator.intercalate texts) =
      (ofString separator).intercalate (texts.map ofString) := by
  rw [ofString, String.toList_intercalate]
  induction texts with
  | nil => rfl
  | cons s texts ih =>
    cases texts with
    | nil => simp [ofString]
    | cons t texts =>
      simp only [List.map_cons, List.intercalate_cons_cons, encode_append] at ih ⊢
      rw [ih]
      rfl

end MessageInspector.Utf8
