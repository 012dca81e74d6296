import MessageInspector.Proofs.Text.Utf8
import MessageInspector.Text.Percent
/-!
# Undoing percent-encoding

Decoding works on any text: a percent sign with two hexadecimal digits after it is a byte, and every
other character stands for its own bytes. It undoes each encoding that spares neither the percent
sign nor a byte outside ASCII. A character that is encoded does not occur in what is encoded, unless
the encodings themselves are made of it.
-/
namespace MessageInspector.Percent

def hexValue? (c : Char) : Option Nat :=
  let v := c.toNat
  if 0x30 ≤ v ∧ v ≤ 0x39 then some (v - 0x30)
  else if 0x41 ≤ v ∧ v ≤ 0x46 then some (v - 0x37)
  else if 0x61 ≤ v ∧ v ≤ 0x66 then some (v - 0x57)
  else none

def decodeBytes : List Char → List UInt8
  | [] => []
  | '%' :: a :: b :: rest =>
    match hexValue? a, hexValue? b with
    | some high, some low => UInt8.ofNat (high * 16 + low) :: decodeBytes rest
    | _, _ => 0x25 :: decodeBytes (a :: b :: rest)
  | c :: rest => Utf8.encodeChar c ++ decodeBytes rest

def decode? (cs : List Char) : Option String := Utf8.decode? (decodeBytes cs)

def encodingChars : List Char := '%' :: (List.range 16).map hexDigit

/-- What must be encoded so that decoding finds its way. -/
structure Covers (isReserved : UInt8 → Bool) : Prop where
  sign : isReserved 0x25 = true
  beyondAscii : ∀ b : UInt8, 0x80 ≤ b.toNat → isReserved b = true

theorem reservedEverywhere_of_le {b : UInt8} (h : 0x80 ≤ b.toNat) :
    isReservedEverywhere b = true := by
  have hle : 0x7F ≤ b := UInt8.le_iff_toNat_le.mpr (Nat.le_of_succ_le h)
  simp [isReservedEverywhere, hle]

theorem covers_path : Covers isReservedInPath where
  sign := by decide
  beyondAscii b h := by simp [isReservedInPath, reservedEverywhere_of_le h]

theorem covers_query : Covers isReservedInQuery where
  sign := by decide
  beyondAscii b h := by simp [isReservedInQuery, isReservedInPath, reservedEverywhere_of_le h]

theorem hexValue_hexDigit : ∀ n < 16, hexValue? (hexDigit n) = some n := by decide

theorem decodeBytes_of_ne {c : Char} (h : c ≠ '%') (rest : List Char) :
    decodeBytes (c :: rest) = Utf8.encodeChar c ++ decodeBytes rest := by
  rw [decodeBytes]
  intros
  exact h ‹_›

section
variable {isReserved : UInt8 → Bool}

theorem toNat_ofNat_byte (b : UInt8) : (Char.ofNat b.toNat).toNat = b.toNat := by
  have hb := b.toNat_lt
  have hvalid : b.toNat.isValidChar := .inl (by omega)
  rw [Char.ofNat, dif_pos hvalid]
  rfl

theorem decodeBytes_encodeByte (covers : Covers isReserved) (b : UInt8) (rest : List Char) :
    decodeBytes (encodeByte isReserved b ++ rest) = b :: decodeBytes rest := by
  have hb := b.toNat_lt
  by_cases hreserved : isReserved b = true
  · have hhigh := hexValue_hexDigit (b.toNat / 16) (by omega)
    have hlow := hexValue_hexDigit (b.toNat % 16) (by omega)
    have hvalue : b.toNat / 16 * 16 + b.toNat % 16 = b.toNat := by omega
    simp only [encodeByte, if_pos hreserved, List.cons_append, List.nil_append, decodeBytes, hhigh,
      hlow, hvalue, UInt8.ofNat_toNat]
  · have hascii : (Char.ofNat b.toNat).toNat < 0x80 := by
      rw [toNat_ofNat_byte]
      by_contra hle
      exact hreserved (covers.beyondAscii b (Nat.le_of_not_lt hle))
    have hsign : Char.ofNat b.toNat ≠ '%' := by
      intro heq
      have hnat := congrArg Char.toNat heq
      rw [toNat_ofNat_byte] at hnat
      obtain rfl : b = 0x25 := UInt8.toNat_inj.mp hnat
      exact hreserved covers.sign
    rw [encodeByte, if_neg hreserved, List.singleton_append, decodeBytes_of_ne hsign,
      Utf8.encodeChar_of_ascii hascii, toNat_ofNat_byte, UInt8.ofNat_toNat, List.singleton_append]

theorem decodeBytes_flatMap (covers : Covers isReserved) (bytes : List UInt8) :
    decodeBytes (bytes.flatMap (encodeByte isReserved)) = bytes := by
  induction bytes with
  | nil => rfl
  | cons b bytes ih => rw [List.flatMap_cons, decodeBytes_encodeByte covers, ih]

theorem decode?_encode (covers : Covers isReserved) (s : String) :
    decode? (encode isReserved s).toList = some s := by
  rw [encode, String.toList_ofList, decode?, decodeBytes_flatMap covers, Utf8.decode?_ofString]

theorem not_mem_encode {b : UInt8} (hreserved : isReserved b = true)
    (hb : Char.ofNat b.toNat ∉ encodingChars) (s : String) :
    Char.ofNat b.toNat ∉ (encode isReserved s).toList := by
  rw [encode, String.toList_ofList, List.mem_flatMap]
  rintro ⟨b', -, hmem⟩
  rw [encodeByte] at hmem
  split at hmem
  · apply hb
    have hbound := b'.toNat_lt
    simp only [List.mem_cons, List.not_mem_nil, or_false] at hmem
    simp only [encodingChars, List.mem_cons, List.mem_map, List.mem_range]
    obtain hsign | hhigh | hlow := hmem
    · exact .inl hsign
    · exact .inr ⟨b'.toNat / 16, by omega, hhigh.symm⟩
    · exact .inr ⟨b'.toNat % 16, by omega, hlow.symm⟩
  · rename_i hspared
    have hnat := congrArg Char.toNat (List.mem_singleton.mp hmem)
    rw [toNat_ofNat_byte, toNat_ofNat_byte] at hnat
    obtain rfl : b = b' := UInt8.toNat_inj.mp hnat
    exact hspared hreserved

end
end MessageInspector.Percent
