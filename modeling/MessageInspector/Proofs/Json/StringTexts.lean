import MessageInspector.Json.Printer
import MessageInspector.Proofs.Json.Reading
import MessageInspector.Proofs.Text.Utf8
/-!
# Texts of strings

What may stand between the quotes of a string literal, and the bytes that it stands for. Every such
text is read, and what is written for a text is one. A literal that is skipped may hold unpaired
surrogates as well.
-/
namespace MessageInspector.Json
open Scan

def Byte.Plain (b : UInt8) : Prop := b ≠ Byte.quote ∧ b ≠ Byte.backslash ∧ ¬ b < 0x20

inductive QuadText : List UInt8 → Nat → Prop
  | digits {a b c d : UInt8} {x y z w : Nat} : Byte.hexValue? a = some x →
      Byte.hexValue? b = some y → Byte.hexValue? c = some z → Byte.hexValue? d = some w →
      QuadText [a, b, c, d] (((x * 16 + y) * 16 + z) * 16 + w)

/-- The text between the quotes of a literal, and the bytes that it stands for. -/
inductive LiteralText : List UInt8 → List UInt8 → Prop
  | nil : LiteralText [] []
  | plain {b text bytes} : Byte.Plain b → LiteralText text bytes →
      LiteralText (b :: text) (b :: bytes)
  | escaped {e c text bytes} : simpleEscape? e = some c → LiteralText text bytes →
      LiteralText (Byte.backslash :: e :: text) (c :: bytes)
  | unicode {quad n text bytes} : QuadText quad n → ¬ (0xD800 ≤ n ∧ n ≤ 0xDFFF) →
      LiteralText text bytes →
      LiteralText (Byte.backslash :: 0x75 :: (quad ++ text))
        (Utf8.encodeChar (Char.ofNat n) ++ bytes)
  | pair {first second high low text bytes} : QuadText first high → 0xD800 ≤ high ∧ high ≤ 0xDBFF →
      QuadText second low → 0xDC00 ≤ low ∧ low ≤ 0xDFFF → LiteralText text bytes →
      LiteralText
        (Byte.backslash :: 0x75 :: (first ++ Byte.backslash :: 0x75 :: (second ++ text)))
        (Utf8.encodeChar (Char.ofNat (0x10000 + (high - 0xD800) * 0x400 + (low - 0xDC00))) ++ bytes)

inductive StringText : List UInt8 → String → Prop
  | closed {inner s} : LiteralText inner (Utf8.ofString s) → StringText (inner ++ [Byte.quote]) s

inductive SkippedLiteral : List UInt8 → Prop
  | nil : SkippedLiteral []
  | plain {b text} : Byte.Plain b → SkippedLiteral text → SkippedLiteral (b :: text)
  | escaped {e c text} : simpleEscape? e = some c → SkippedLiteral text →
      SkippedLiteral (Byte.backslash :: e :: text)
  | unicode {quad n text} : QuadText quad n → SkippedLiteral text →
      SkippedLiteral (Byte.backslash :: 0x75 :: (quad ++ text))

/-! ## Reading literals -/

theorem hexQuad_append {quad : List UInt8} {n : Nat} (h : QuadText quad n) (rest : List UInt8) :
    hexQuad (quad ++ rest) = .ok (n, rest) := by
  cases h with
  | digits ha hb hc hd => simp only [List.cons_append, List.nil_append, hexQuad, ha, hb, hc, hd]

theorem lowSurrogate_append {quad : List UInt8} {n : Nat} (h : QuadText quad n)
    (hlow : 0xDC00 ≤ n ∧ n ≤ 0xDFFF) (rest : List UInt8) :
    lowSurrogate (Byte.backslash :: 0x75 :: (quad ++ rest)) = .ok (n, rest) := by
  simp only [lowSurrogate, and_self, if_true, hexQuad_append h, if_pos hlow]

theorem ne_of_simpleEscape {e c : UInt8} (h : simpleEscape? e = some c) : e ≠ 0x75 := by
  rintro rfl
  cases h

theorem escape_escaped {e c : UInt8} (h : simpleEscape? e = some c) (rest : List UInt8) :
    Reader.scan escape (e :: rest) = .ok ([c], rest) := by
  rw [scan_escape, byte_andThen, if_neg (ne_of_simpleEscape h), h]
  rfl

theorem escape_unicode {quad : List UInt8} {n : Nat} (h : QuadText quad n)
    (hn : ¬ (0xD800 ≤ n ∧ n ≤ 0xDFFF)) (rest : List UInt8) :
    Reader.scan escape (0x75 :: (quad ++ rest)) = .ok (Utf8.encodeChar (Char.ofNat n), rest) := by
  rw [scan_escape, byte_andThen, if_pos rfl, andThen_of_ok (hexQuad_append h rest),
    if_neg (by omega), if_neg (by omega)]
  rfl

theorem escape_pair {first second : List UInt8} {high low : Nat} (hfirst : QuadText first high)
    (hhigh : 0xD800 ≤ high ∧ high ≤ 0xDBFF) (hsecond : QuadText second low)
    (hlow : 0xDC00 ≤ low ∧ low ≤ 0xDFFF) (rest : List UInt8) :
    Reader.scan escape (0x75 :: (first ++ Byte.backslash :: 0x75 :: (second ++ rest))) =
      .ok (Utf8.encodeChar (Char.ofNat (0x10000 + (high - 0xD800) * 0x400 + (low - 0xDC00))),
        rest) := by
  rw [scan_escape, byte_andThen, if_pos rfl, andThen_of_ok (hexQuad_append hfirst _),
    if_neg (by omega), if_pos hhigh]
  exact map_of_ok (lowSurrogate_append hsecond hlow rest) _

theorem literalBytes_plain {b : UInt8} (h : Byte.Plain b) (rest : List UInt8) :
    Reader.scan literalBytes (b :: rest) = (Reader.scan literalBytes).map (b :: ·) rest := by
  obtain ⟨hquote, hbackslash, hcontrol⟩ := h
  rw [scan_literalBytes, byte_andThen, if_neg hquote, if_neg hbackslash, if_neg hcontrol,
    ← scan_literalBytes]

theorem literalBytes_escape {s bytes rest : List UInt8}
    (h : Reader.scan escape s = .ok (bytes, rest)) :
    Reader.scan literalBytes (Byte.backslash :: s) =
      (Reader.scan literalBytes).map (bytes ++ ·) rest := by
  rw [scan_literalBytes, byte_andThen, if_neg (by decide), if_pos rfl, andThen_of_ok h,
    ← scan_literalBytes]

theorem literalBytes_append {text bytes : List UInt8} (h : LiteralText text bytes)
    (rest : List UInt8) :
    Reader.scan literalBytes (text ++ Byte.quote :: rest) = .ok (bytes, rest) := by
  induction h with
  | nil =>
    rw [List.nil_append, scan_literalBytes, byte_andThen, if_pos rfl]
    rfl
  | plain hb _ ih =>
    rw [List.cons_append, literalBytes_plain hb]
    exact map_of_ok ih _
  | escaped he _ ih =>
    rw [List.cons_append, List.cons_append, literalBytes_escape (escape_escaped he _)]
    exact map_of_ok ih _
  | unicode hquad hn _ ih =>
    rw [List.cons_append, List.cons_append, List.append_assoc,
      literalBytes_escape (escape_unicode hquad hn _)]
    exact map_of_ok ih _
  | pair hfirst hhigh hsecond hlow _ ih =>
    simp only [List.cons_append, List.append_assoc]
    rw [literalBytes_escape (escape_pair hfirst hhigh hsecond hlow _)]
    exact map_of_ok ih _

theorem takes_literal {before text : List UInt8} {s : String} (hbefore : Blank before)
    (h : StringText text s) :
    (Reader.scan literal).Takes (before ++ Byte.quote :: text) s := by
  intro rest _
  cases h with
  | @closed inner _ hinner =>
    have hbytes := literalBytes_append hinner rest
    simp only [List.append_assoc, List.cons_append, List.nil_append]
    rw [scan_literal, andThen_of_ok (next_append hbefore (by decide) _), if_pos rfl,
      scan_literalRest, hbytes]
    simp only [Utf8.decode?_ofString]

/-! ## Skipping literals -/

theorem scan_skipLiteralRest :
    Reader.scan skipLiteralRest = byte.andThen fun b =>
      if b = Byte.quote then done ()
      else if b = Byte.backslash then
        byte.andThen fun e =>
          if e = 0x75 then Scan.andThen hexQuad fun _ => Reader.scan skipLiteralRest
          else if (simpleEscape? e).isSome then Reader.scan skipLiteralRest
          else fail .illFormed
      else if b < 0x20 then fail .illFormed
      else Reader.scan skipLiteralRest := by
  funext s
  have hscan (s : List UInt8) : Reader.scan skipLiteralRest s =
    (skipLiteralRest s).map fun x => (x.value, x.rest) := rfl
  rw [Scan.andThen, hscan, skipLiteralRest.eq_def]
  cases s with
  | nil => rfl
  | cons b rest =>
    simp only [byte]
    by_cases hquote : b = Byte.quote
    · simp only [if_pos hquote]
      rfl
    by_cases hbackslash : b = Byte.backslash
    · simp only [if_neg hquote, if_pos hbackslash]
      cases rest with
      | nil => rfl
      | cons e rest =>
        rw [byte_andThen]
        by_cases hu : e = 0x75
        · simp only [if_pos hu]
          split
          · rename_i fault hquad
            rw [andThen_of_error hquad]
            rfl
          · rename_i n t hquad
            rw [andThen_of_ok hquad, hscan]
            cases skipLiteralRest t <;> rfl
        by_cases hsimple : (simpleEscape? e).isSome = true
        · simp only [if_neg hu, if_pos hsimple, hscan]
          cases skipLiteralRest rest <;> rfl
        · simp only [if_neg hu, if_neg hsimple]
          rfl
    by_cases hcontrol : b < 0x20
    · simp only [if_neg hquote, if_neg hbackslash, if_pos hcontrol]
      rfl
    · simp only [if_neg hquote, if_neg hbackslash, if_neg hcontrol, hscan]
      cases skipLiteralRest rest <;> rfl

theorem skipLiteralRest_append {text : List UInt8} (h : SkippedLiteral text) (rest : List UInt8) :
    Reader.scan skipLiteralRest (text ++ Byte.quote :: rest) = .ok ((), rest) := by
  induction h with
  | nil =>
    rw [List.nil_append, scan_skipLiteralRest, byte_andThen, if_pos rfl]
    rfl
  | @plain b text hb _ ih =>
    obtain ⟨hquote, hbackslash, hcontrol⟩ := hb
    rw [List.cons_append, scan_skipLiteralRest, byte_andThen, if_neg hquote,
      if_neg hbackslash, if_neg hcontrol, ih]
  | @escaped e c text he _ ih =>
    have hsome : (simpleEscape? e).isSome = true := by rw [he]; rfl
    rw [List.cons_append, List.cons_append, scan_skipLiteralRest, byte_andThen,
      if_neg (by decide), if_pos rfl, byte_andThen, if_neg (ne_of_simpleEscape he),
      if_pos hsome, ih]
  | @unicode quad n text hquad _ ih =>
    rw [List.cons_append, List.cons_append, List.append_assoc, scan_skipLiteralRest,
      byte_andThen, if_neg (by decide), if_pos rfl, byte_andThen, if_pos rfl,
      andThen_of_ok (hexQuad_append hquad _), ih]

theorem scan_skipLiteral :
    Reader.scan skipLiteral = (Reader.scan next).andThen fun c =>
      if c = Byte.quote then Reader.scan skipLiteralRest else fail .illFormed := by
  funext s
  rw [Reader.scan_andThen, Reader.scan_eq, skipLiteral]
  cases next s with
  | error fault => rfl
  | ok c =>
    by_cases hquote : c.value = Byte.quote
    · simp only [if_pos hquote, Reader.scan_eq]
      cases skipLiteralRest c.rest <;> rfl
    · simp only [if_neg hquote]
      rfl

theorem takes_skipLiteral {before text : List UInt8} (hbefore : Blank before)
    (h : SkippedLiteral text) :
    (Reader.scan skipLiteral).Takes (before ++ Byte.quote :: (text ++ [Byte.quote])) () := by
  intro rest _
  simp only [List.append_assoc, List.cons_append, List.nil_append]
  rw [scan_skipLiteral, andThen_of_ok (next_append hbefore (by decide) _), if_pos rfl]
  exact skipLiteralRest_append h rest

/-! ## Writing literals -/

theorem plain_of_mem_encodeChar {c : Char} (hquote : c ≠ '\x22') (hbackslash : c ≠ '\\')
    (hcontrol : ¬ c.toNat < 0x20) {b : UInt8} (hb : b ∈ Utf8.encodeChar c) : Byte.Plain b := by
  by_cases hascii : c.toNat < 0x80
  · rw [Utf8.encodeChar_of_ascii hascii] at hb
    obtain rfl := List.mem_singleton.mp hb
    have hvalue : (UInt8.ofNat c.toNat).toNat = c.toNat :=
      UInt8.toNat_ofNat_of_lt' (Nat.lt_trans hascii (by decide))
    refine ⟨?_, ?_, ?_⟩
    · intro h
      apply hquote
      rw [← Char.ofNat_toNat c, ← hvalue, h]
      rfl
    · intro h
      apply hbackslash
      rw [← Char.ofNat_toNat c, ← hvalue, h]
      rfl
    · rwa [UInt8.lt_iff_toNat_lt, hvalue]
  · have hb := Utf8.le_of_mem_encodeChar hascii hb
    refine ⟨?_, ?_, ?_⟩
    · rintro rfl
      exact absurd hb (by decide)
    · rintro rfl
      exact absurd hb (by decide)
    · rw [UInt8.lt_iff_toNat_lt]
      have : (0x20 : UInt8).toNat = 0x20 := rfl
      omega

theorem LiteralText.append_plain {taken text bytes : List UInt8} (h : ∀ b ∈ taken, Byte.Plain b)
    (htext : LiteralText text bytes) : LiteralText (taken ++ text) (taken ++ bytes) := by
  induction taken with
  | nil => exact htext
  | cons b taken ih =>
    exact .plain (h b List.mem_cons_self) (ih fun c hc => h c (List.mem_cons_of_mem _ hc))

theorem hexDigit_spec : ∀ n < 16, (hexDigit n).toNat < 0x80 ∧
    Byte.hexValue? (UInt8.ofNat (hexDigit n).toNat) = some n := by
  decide

theorem literalText_control {c : Char} (h : c.toNat < 0x20) {text bytes : List UInt8}
    (htext : LiteralText text bytes) :
    LiteralText (Utf8.encode
        ['\\', 'u', '0', '0', hexDigit (c.toNat / 16), hexDigit (c.toNat % 16)] ++ text)
      (Utf8.encodeChar c ++ bytes) := by
  obtain ⟨hhigh, high⟩ := hexDigit_spec (c.toNat / 16) (by omega)
  obtain ⟨hlow, low⟩ := hexDigit_spec (c.toNat % 16) (by omega)
  have hzero : Byte.hexValue? 0x30 = some 0 := by decide
  have hquad := QuadText.digits hzero hzero high low
  have hvalue : ((0 * 16 + 0) * 16 + c.toNat / 16) * 16 + c.toNat % 16 = c.toNat := by omega
  rw [hvalue] at hquad
  have hliteral := LiteralText.unicode hquad (by omega) htext
  rw [Char.ofNat_toNat] at hliteral
  have hencode : Utf8.encode
      ['\\', 'u', '0', '0', hexDigit (c.toNat / 16), hexDigit (c.toNat % 16)] =
      [0x5C, 0x75, 0x30, 0x30] ++ (Utf8.encodeChar (hexDigit (c.toNat / 16)) ++
        (Utf8.encodeChar (hexDigit (c.toNat % 16)) ++ [])) := rfl
  rw [hencode, Utf8.encodeChar_of_ascii hhigh, Utf8.encodeChar_of_ascii hlow]
  exact hliteral

theorem literalText_escapeChar (c : Char) {text bytes : List UInt8} (h : LiteralText text bytes) :
    LiteralText (Utf8.encode (escapeChar c) ++ text) (Utf8.encodeChar c ++ bytes) := by
  rw [escapeChar]
  by_cases hquote : c = '\x22'
  · rw [if_pos hquote, hquote]
    exact .escaped rfl h
  by_cases hbackslash : c = '\\'
  · rw [if_neg hquote, if_pos hbackslash, hbackslash]
    exact .escaped rfl h
  rw [if_neg hquote, if_neg hbackslash]
  by_cases hcontrol : c.toNat < 0x20
  · rw [if_pos hcontrol]
    split
    next hc =>
      subst hc
      exact .escaped rfl h
    split
    next hc =>
      subst hc
      exact .escaped rfl h
    split
    next hc =>
      subst hc
      exact .escaped rfl h
    split
    next hc =>
      subst hc
      exact .escaped rfl h
    split
    next hc =>
      subst hc
      exact .escaped rfl h
    · exact literalText_control hcontrol h
  · rw [if_neg hcontrol]
    have hencode : Utf8.encode [c] = Utf8.encodeChar c := List.append_nil _
    rw [hencode]
    exact h.append_plain fun b hb => plain_of_mem_encodeChar hquote hbackslash hcontrol hb

theorem literalText_flatMap (cs : List Char) :
    LiteralText (Utf8.encode (cs.flatMap escapeChar)) (Utf8.encode cs) := by
  induction cs with
  | nil => exact .nil
  | cons c cs ih =>
    rw [List.flatMap_cons, Utf8.encode_append]
    exact literalText_escapeChar c ih

theorem stringText_plain {s : String} (h : s.toList.flatMap escapeChar = s.toList) :
    StringText (Utf8.ofString s ++ [Byte.quote]) s := by
  have htext := literalText_flatMap s.toList
  rw [h] at htext
  exact .closed htext

theorem ofString_quote (s : String) :
    ∃ text, Utf8.ofString (quote s) = Byte.quote :: text ∧ StringText text s := by
  refine ⟨Utf8.encode (s.toList.flatMap escapeChar) ++ [Byte.quote], ?_, ?_⟩
  · rw [quote, Utf8.ofString_ofList, List.cons_append, ← List.singleton_append,
      Utf8.encode_append, Utf8.encode_append]
    rfl
  · exact .closed (literalText_flatMap s.toList)

end MessageInspector.Json
