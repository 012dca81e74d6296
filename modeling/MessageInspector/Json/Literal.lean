import MessageInspector.Json.Reader
import MessageInspector.Text.Utf8
/-!
# Reading string literals

The bytes between the quotes, escapes resolved, must be well-formed UTF-8. Surrogate escapes must
come in pairs. A part that is skipped may hold unpaired surrogates and ill-formed bytes, since it
is never turned into a text.
-/
namespace MessageInspector.Json

theorem length_lt_cons (b : UInt8) (s : List UInt8) : s.length < (b :: s).length :=
  Nat.lt_succ_self _

theorem length_lt_cons_cons (b c : UInt8) (s : List UInt8) : s.length < (b :: c :: s).length :=
  Nat.lt_succ_of_lt (Nat.lt_succ_self _)

/-- The number written with four hexadecimal digits at the front. With fewer than four bytes left
the text counts as ended. -/
def hexQuad : List UInt8 → Except Fault (Nat × List UInt8)
  | a :: b :: c :: d :: rest =>
    match Byte.hexValue? a, Byte.hexValue? b, Byte.hexValue? c, Byte.hexValue? d with
    | some a, some b, some c, some d => .ok (((a * 16 + b) * 16 + c) * 16 + d, rest)
    | _, _, _, _ => .error .illFormed
  | _ => .error .incomplete

theorem length_lt_of_hexQuad {s rest : List UInt8} {n : Nat} (h : hexQuad s = .ok (n, rest)) :
    rest.length < s.length := by
  match s with
  | [] | [_] | [_, _] | [_, _, _] => simp [hexQuad] at h
  | a :: b :: c :: d :: t =>
    simp only [hexQuad] at h
    split at h
    · simp only [Except.ok.injEq, Prod.mk.injEq] at h
      simp only [← h.2, List.length_cons]
      omega
    · simp at h

def simpleEscape? (b : UInt8) : Option UInt8 :=
  if b = 0x22 then some 0x22
  else if b = 0x5C then some 0x5C
  else if b = 0x2F then some 0x2F
  else if b = 0x62 then some 0x08
  else if b = 0x66 then some 0x0C
  else if b = 0x6E then some 0x0A
  else if b = 0x72 then some 0x0D
  else if b = 0x74 then some 0x09
  else none

/-- The low half of a surrogate pair: a backslash, `u` and four digits that name a low surrogate. -/
def lowSurrogate : List UInt8 → Except Fault (Nat × List UInt8)
  | [] => .error .incomplete
  | [b] => if b = Byte.backslash then .error .incomplete else .error .illFormed
  | b :: u :: rest =>
    if b = Byte.backslash ∧ u = 0x75 then
      match hexQuad rest with
      | .error fault => .error fault
      | .ok (n, rest) =>
        if 0xDC00 ≤ n ∧ n ≤ 0xDFFF then .ok (n, rest) else .error .illFormed
    else .error .illFormed

theorem length_lt_of_lowSurrogate {s rest : List UInt8} {n : Nat}
    (h : lowSurrogate s = .ok (n, rest)) : rest.length < s.length := by
  match s with
  | [] => simp [lowSurrogate] at h
  | [b] => simp only [lowSurrogate] at h; split at h <;> simp at h
  | b :: u :: t =>
    simp only [lowSurrogate] at h
    split at h
    · split at h
      · simp at h
      · rename_i n' r' hq
        split at h
        · simp only [Except.ok.injEq, Prod.mk.injEq] at h
          have := length_lt_of_hexQuad hq
          simp only [← h.2, List.length_cons]
          omega
        · simp at h
    · simp at h

def escape : Reader (List UInt8) := fun s =>
  match s with
  | [] => .error .incomplete
  | b :: rest =>
    if b = 0x75 then
      match hq : hexQuad rest with
      | .error fault => .error fault
      | .ok (n, rest') =>
        have hr := length_lt_of_hexQuad hq
        if 0xDC00 ≤ n ∧ n ≤ 0xDFFF then .error .illFormed
        else if 0xD800 ≤ n ∧ n ≤ 0xDBFF then
          match hl : lowSurrogate rest' with
          | .error fault => .error fault
          | .ok (low, rest'') =>
            have hl := length_lt_of_lowSurrogate hl
            .ok ⟨Utf8.encodeChar (Char.ofNat (0x10000 + (n - 0xD800) * 0x400 + (low - 0xDC00))),
              rest'', Nat.lt_trans hl (Nat.lt_trans hr (length_lt_cons b rest))⟩
        else .ok ⟨Utf8.encodeChar (Char.ofNat n), rest',
          Nat.lt_trans hr (length_lt_cons b rest)⟩
    else
      match simpleEscape? b with
      | some c => .ok ⟨[c], rest, length_lt_cons b rest⟩
      | none => .error .illFormed

def literalBytes (s : List UInt8) : Except Fault (Taken (List UInt8) s) :=
  match s with
  | [] => .error .incomplete
  | b :: rest =>
    if b = Byte.quote then .ok ⟨[], rest, length_lt_cons b rest⟩
    else if b = Byte.backslash then
      match escape rest with
      | .error fault => .error fault
      | .ok e =>
        have he : e.rest.length < (b :: rest).length :=
          Nat.lt_trans e.shorter (length_lt_cons b rest)
        match literalBytes e.rest with
        | .error fault => .error fault
        | .ok x => .ok ((x.map (e.value ++ ·)).widen he)
    else if b < 0x20 then .error .illFormed
    else
      match literalBytes rest with
      | .error fault => .error fault
      | .ok x => .ok ((x.map (b :: ·)).widen (length_lt_cons b rest))
termination_by s.length
decreasing_by
  · exact he
  · exact length_lt_cons b rest

def literalRest : Reader String := fun s =>
  match literalBytes s with
  | .error fault => .error fault
  | .ok x =>
    match Utf8.decode? x.value with
    | some text => .ok (x.map fun _ => text)
    | none => .error .illFormed

def literal : Reader String := fun s =>
  match next s with
  | .error fault => .error fault
  | .ok c =>
    if c.value = Byte.quote then
      match literalRest c.rest with
      | .error fault => .error fault
      | .ok x => .ok (c.after x)
    else .error .illFormed

/-- Pass over the rest of a string literal. Escapes are checked one by one, not in pairs. -/
def skipLiteralRest (s : List UInt8) : Except Fault (Taken Unit s) :=
  match s with
  | [] => .error .incomplete
  | b :: rest =>
    if b = Byte.quote then .ok ⟨(), rest, length_lt_cons b rest⟩
    else if b = Byte.backslash then
      match rest with
      | [] => .error .incomplete
      | e :: rest =>
        if e = 0x75 then
          match hq : hexQuad rest with
          | .error fault => .error fault
          | .ok (_, rest') =>
            have hr : rest'.length < (b :: e :: rest).length :=
              Nat.lt_trans (length_lt_of_hexQuad hq) (length_lt_cons_cons b e rest)
            match skipLiteralRest rest' with
            | .error fault => .error fault
            | .ok x => .ok (x.widen hr)
        else if (simpleEscape? e).isSome then
          match skipLiteralRest rest with
          | .error fault => .error fault
          | .ok x => .ok (x.widen (length_lt_cons_cons b e rest))
        else .error .illFormed
    else if b < 0x20 then .error .illFormed
    else
      match skipLiteralRest rest with
      | .error fault => .error fault
      | .ok x => .ok (x.widen (length_lt_cons b rest))
termination_by s.length
decreasing_by
  · exact hr
  · exact length_lt_cons_cons b e rest
  · exact length_lt_cons b rest

def skipLiteral : Reader Unit := fun s =>
  match next s with
  | .error fault => .error fault
  | .ok c =>
    if c.value = Byte.quote then
      match skipLiteralRest c.rest with
      | .error fault => .error fault
      | .ok x => .ok (c.after x)
    else .error .illFormed

end MessageInspector.Json
