import MessageInspector.Json.Literal
import MessageInspector.Proofs.Json.Brackets
/-!
# String literals end with their quote

Escapes take what they need and no more, and a literal ends at the first quote that is no part of an
escape. So nothing that follows the closing quote changes the text of a literal.
-/
namespace MessageInspector.Json
open Scan
variable {s : List UInt8}

theorem framedAt_hexQuad (s : List UInt8) : FramedAt hexQuad s := by
  intro n rest h
  match s with
  | [] | [_] | [_, _] | [_, _, _] => cases h
  | a :: b :: c :: d :: t =>
    have ht : t = rest := by
      simp only [hexQuad] at h
      split at h
      · cases h
        rfl
      · cases h
    subst ht
    refine ⟨[a, b, c, d], rfl, ?_⟩
    intro other _
    simp only [hexQuad, List.cons_append, List.nil_append] at h ⊢
    split at h
    · cases h
      rfl
    · cases h

theorem framedAt_lowSurrogate (s : List UInt8) : FramedAt lowSurrogate s := by
  intro n rest h
  match s with
  | [] => cases h
  | [b] =>
    simp only [lowSurrogate] at h
    split at h <;> cases h
  | b :: u :: t =>
    simp only [lowSurrogate] at h
    split at h
    · rename_i hmark
      split at h
      · cases h
      · rename_i low t' hquad
        obtain ⟨taken, rfl, hall⟩ := framedAt_hexQuad t low t' hquad
        split at h
        · rename_i hlow
          cases h
          refine ⟨b :: u :: taken, rfl, ?_⟩
          intro other follows
          simp only [List.cons_append, lowSurrogate, if_pos hmark, hall other follows, if_pos hlow]
        · cases h
    · cases h

theorem scan_escape :
    Reader.scan escape = byte.andThen fun b =>
      if b = 0x75 then
        Scan.andThen hexQuad fun n =>
          if 0xDC00 ≤ n ∧ n ≤ 0xDFFF then fail .illFormed
          else if 0xD800 ≤ n ∧ n ≤ 0xDBFF then
            Scan.map (fun low => Utf8.encodeChar
              (Char.ofNat (0x10000 + (n - 0xD800) * 0x400 + (low - 0xDC00)))) lowSurrogate
          else done (Utf8.encodeChar (Char.ofNat n))
      else
        match simpleEscape? b with
        | some c => done [c]
        | none => fail .illFormed := by
  funext s
  simp only [Reader.scan, Reader.run, escape]
  cases s with
  | nil => rfl
  | cons b rest =>
    have hbyte : byte (b :: rest) = .ok (b, rest) := rfl
    rw [andThen_of_ok hbyte]
    by_cases hu : b = 0x75
    · simp only [if_pos hu]
      split
      · rename_i fault hquad
        rw [andThen_of_error hquad]
        rfl
      · rename_i n t hquad
        rw [andThen_of_ok hquad]
        by_cases hlow : 0xDC00 ≤ n ∧ n ≤ 0xDFFF
        · simp only [if_pos hlow]
          rfl
        by_cases hhigh : 0xD800 ≤ n ∧ n ≤ 0xDBFF
        · simp only [if_neg hlow, if_pos hhigh]
          split
          · rename_i fault hl
            rw [Scan.map, hl]
            rfl
          · rename_i low t' hl
            simp only [map_of_ok hl, Except.map]
        · simp only [if_neg hlow, if_neg hhigh]
          rfl
    · simp only [if_neg hu]
      cases simpleEscape? b <;> rfl

theorem framedAt_escape (s : List UInt8) : (Reader.scan escape).FramedAt s := by
  rw [scan_escape]
  apply (returnsLast_byte.framedAt s).andThen
  intro b rest _
  split
  · apply (framedAt_hexQuad rest).andThen
    intro n t _
    split
    · exact framedAt_fail _
    · split
      · exact FramedAt.map (framedAt_lowSurrogate t) _
      · exact framedAt_done _
  · split
    · exact framedAt_done _
    · exact framedAt_fail _

theorem scan_literalBytes :
    Reader.scan literalBytes = byte.andThen fun b =>
      if b = Byte.quote then done []
      else if b = Byte.backslash then
        (Reader.scan escape).andThen fun e => (Reader.scan literalBytes).map (e ++ ·)
      else if b < 0x20 then fail .illFormed
      else (Reader.scan literalBytes).map (b :: ·) := by
  funext s
  rw [Scan.andThen]
  rw [Reader.scan_eq, literalBytes.eq_def]
  cases s with
  | nil => rfl
  | cons b rest =>
    simp only [byte]
    by_cases hquote : b = Byte.quote
    · simp only [if_pos hquote]
      rfl
    by_cases hescape : b = Byte.backslash
    · simp only [if_neg hquote, if_pos hescape, Reader.scan_andThen]
      cases escape rest with
      | error fault => rfl
      | ok e =>
        simp only [Reader.map_scan]
        cases literalBytes e.rest <;> rfl
    by_cases hcontrol : b < 0x20
    · simp only [if_neg hquote, if_neg hescape, if_pos hcontrol]
      rfl
    · simp only [if_neg hquote, if_neg hescape, if_neg hcontrol, Reader.map_scan]
      cases literalBytes rest <;> rfl

theorem closedAt_literalBytes (s : List UInt8) :
    (Reader.scan literalBytes).ClosedAt Byte.quote s := by
  induction hn : s.length using Nat.strongRecOn generalizing s with
  | ind n ih =>
    rw [scan_literalBytes]
    apply returnsLast_byte.closedAt_until
    intro b rest hb _
    obtain ⟨lead, rfl, -⟩ := returnsLast_byte s b rest hb
    simp only [List.length_append, List.length_cons] at hn
    split
    · apply (framedAt_escape rest).andThenClosed
      intro e t he
      have ht := Reader.length_lt_of_scan he
      exact (ih t.length (by omega) t rfl).map _
    · split
      · exact closedAt_fail _ _
      · exact (ih rest.length (by omega) rest rfl).map _

theorem scan_literalRest (s : List UInt8) :
    Reader.scan literalRest s =
      match Reader.scan literalBytes s with
      | .error fault => .error fault
      | .ok (bytes, rest) =>
        match Utf8.decode? bytes with
        | some text => .ok (text, rest)
        | none => .error .illFormed := by
  rw [Reader.scan_eq, Reader.scan_eq, literalRest]
  cases literalBytes s with
  | error fault => rfl
  | ok x =>
    simp only
    cases Utf8.decode? x.value <;> rfl

theorem closedAt_literalRest (s : List UInt8) :
    (Reader.scan literalRest).ClosedAt Byte.quote s := by
  intro text rest h
  rw [scan_literalRest] at h
  split at h
  · cases h
  · rename_i bytes t hbytes
    split at h
    · rename_i decoded hdecoded
      cases h
      obtain ⟨inner, rfl, hall⟩ := closedAt_literalBytes s bytes _ hbytes
      refine ⟨inner, rfl, ?_⟩
      intro other
      simp only [scan_literalRest, hall other, hdecoded]
    · cases h

theorem scan_literal :
    Reader.scan literal = (Reader.scan next).andThen fun c =>
      if c = Byte.quote then Reader.scan literalRest else fail .illFormed := by
  funext s
  rw [Reader.scan_andThen, Reader.scan_eq, literal]
  cases next s with
  | error fault => rfl
  | ok c =>
    by_cases hquote : c.value = Byte.quote
    · simp only [if_pos hquote, Reader.scan_eq]
      cases literalRest c.rest <;> rfl
    · simp only [if_neg hquote]
      rfl

theorem visible_literal : (Reader.scan literal).Visible := by
  rw [scan_literal]
  exact visible_next.andThen _

theorem closedAt_literal (s : List UInt8) : (Reader.scan literal).ClosedAt Byte.quote s := by
  rw [scan_literal]
  apply (returnsLast_next.framedAt s).andThenClosed
  intro c rest _
  split
  · exact closedAt_literalRest rest
  · exact closedAt_fail _ _

end MessageInspector.Json
