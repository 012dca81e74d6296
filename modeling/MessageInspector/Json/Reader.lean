/-!
# Reading JSON bytes

A reader takes a value from the front of a byte sequence and leaves a shorter rest, or names the
first fault that it meets from left to right. This module holds what all readers share: blanks,
fixed words, and the bracketed loops over items and members. What an item or a member is stays a
parameter, so the same loops read values, typed records and skipped parts.
-/
namespace MessageInspector.Json

/-- Why a text could not be read: it breaks the grammar, it ends too early, or it is well-formed
and holds something else than wanted. -/
inductive Fault
  | illFormed
  | incomplete
  | mismatch
deriving DecidableEq, Repr

/-- A value taken from the front of `s` and the shorter rest. -/
structure Taken (α : Type) (s : List UInt8) where
  value : α
  rest : List UInt8
  shorter : rest.length < s.length

abbrev Reader (α : Type) := (s : List UInt8) → Except Fault (Taken α s)

namespace Byte

def quote : UInt8 := 0x22
def backslash : UInt8 := 0x5C
def comma : UInt8 := 0x2C
def colon : UInt8 := 0x3A
def openBracket : UInt8 := 0x5B
def closeBracket : UInt8 := 0x5D
def openBrace : UInt8 := 0x7B
def closeBrace : UInt8 := 0x7D
def minus : UInt8 := 0x2D
def plus : UInt8 := 0x2B
def point : UInt8 := 0x2E

def isBlank (b : UInt8) : Bool := b == 0x20 || b == 0x09 || b == 0x0A || b == 0x0D

def isDigit (b : UInt8) : Bool := 0x30 ≤ b && b ≤ 0x39

def hexValue? (b : UInt8) : Option Nat :=
  let v := b.toNat
  if 0x30 ≤ v ∧ v ≤ 0x39 then some (v - 0x30)
  else if 0x41 ≤ v ∧ v ≤ 0x46 then some (v - 0x37)
  else if 0x61 ≤ v ∧ v ≤ 0x66 then some (v - 0x57)
  else none

end Byte

def skipBlanks (s : List UInt8) : List UInt8 := s.dropWhile Byte.isBlank

theorem length_skipBlanks_le (s : List UInt8) : (skipBlanks s).length ≤ s.length :=
  (List.dropWhile_suffix _).length_le

theorem length_lt_of_skipBlanks_eq {s rest : List UInt8} {b : UInt8}
    (h : skipBlanks s = b :: rest) : rest.length < s.length := by
  have := length_skipBlanks_le s
  rw [h] at this
  exact this

namespace Taken

def widen {α : Type} {s t : List UInt8} (x : Taken α t) (h : t.length < s.length) : Taken α s :=
  ⟨x.value, x.rest, Nat.lt_trans x.shorter h⟩

def after {α β : Type} {s : List UInt8} (first : Taken β s) (x : Taken α first.rest) : Taken α s :=
  x.widen first.shorter

def map {α β : Type} {s : List UInt8} (f : α → β) (x : Taken α s) : Taken β s :=
  ⟨f x.value, x.rest, x.shorter⟩

end Taken

namespace Reader

def run {α : Type} (reader : Reader α) (s : List UInt8) : Except Fault (α × List UInt8) :=
  (reader s).map fun x => (x.value, x.rest)

def map {α β : Type} (f : α → β) (reader : Reader α) : Reader β :=
  fun s => (reader s).map (Taken.map f)

end Reader

def next : Reader UInt8 := fun s =>
  match h : skipBlanks s with
  | [] => .error .incomplete
  | b :: rest => .ok ⟨b, rest, length_lt_of_skipBlanks_eq h⟩

def word : List UInt8 → List UInt8 → Except Fault (List UInt8)
  | [], s => .ok s
  | _ :: _, [] => .error .incomplete
  | w :: ws, b :: rest => if b = w then word ws rest else .error .illFormed

theorem length_le_of_word {ws s rest : List UInt8} (h : word ws s = .ok rest) :
    rest.length ≤ s.length := by
  induction ws generalizing s with
  | nil => simp only [word, Except.ok.injEq] at h; simp [h]
  | cons w ws ih =>
    cases s with
    | nil => simp [word] at h
    | cons b s =>
      simp only [word] at h
      split at h
      · exact Nat.le_succ_of_le (ih h)
      · simp at h

def mark (b : UInt8) : Reader Unit := fun s =>
  match next s with
  | .error fault => .error fault
  | .ok c => if c.value = b then .ok (c.map fun _ => ()) else .error .illFormed

def itemsAfter {α : Type} (item : Reader α) (s : List UInt8) :
    Except Fault (Taken (List α) s) :=
  match next s with
  | .error fault => .error fault
  | .ok c =>
    if c.value = Byte.closeBracket then .ok (c.map fun _ => [])
    else if c.value = Byte.comma then
      match next c.rest with
      | .error fault => .error fault
      | .ok d =>
        if d.value = Byte.closeBracket then .error .illFormed
        else
          match item c.rest with
          | .error fault => .error fault
          | .ok x =>
            have hx : x.rest.length < s.length := Nat.lt_trans x.shorter c.shorter
            match itemsAfter item x.rest with
            | .error fault => .error fault
            | .ok xs => .ok ((xs.map (x.value :: ·)).widen hx)
    else .error .illFormed
termination_by s.length

def items {α : Type} (item : Reader α) : Reader (List α) := fun s =>
  match next s with
  | .error fault => .error fault
  | .ok c =>
    if c.value = Byte.closeBracket then .ok (c.map fun _ => [])
    else
      match item s with
      | .error fault => .error fault
      | .ok x =>
        match itemsAfter item x.rest with
        | .error fault => .error fault
        | .ok xs => .ok (x.after (xs.map (x.value :: ·)))

def member {κ σ : Type} (key : Reader κ) (entry : σ → κ → Reader σ) (state : σ) : Reader σ :=
  fun s =>
    match next s with
    | .error fault => .error fault
    | .ok c =>
      if c.value = Byte.quote then
        match key s with
        | .error fault => .error fault
        | .ok k =>
          match entry state k.value k.rest with
          | .error fault => .error fault
          | .ok x => .ok (k.after x)
      else .error .illFormed

/-- Members after the first, up to and including the closing brace. Each adds to the state. -/
def membersAfter {κ σ : Type} (key : Reader κ) (entry : σ → κ → Reader σ) (state : σ)
    (s : List UInt8) : Except Fault (Taken σ s) :=
  match next s with
  | .error fault => .error fault
  | .ok c =>
    if c.value = Byte.closeBrace then .ok (c.map fun _ => state)
    else if c.value = Byte.comma then
      match member key entry state c.rest with
      | .error fault => .error fault
      | .ok x =>
        have hx : x.rest.length < s.length := Nat.lt_trans x.shorter c.shorter
        match membersAfter key entry x.value x.rest with
        | .error fault => .error fault
        | .ok xs => .ok (xs.widen hx)
    else .error .illFormed
termination_by s.length

def members {κ σ : Type} (key : Reader κ) (entry : σ → κ → Reader σ) (state : σ) : Reader σ :=
  fun s =>
    match next s with
    | .error fault => .error fault
    | .ok c =>
      if c.value = Byte.closeBrace then .ok (c.map fun _ => state)
      else
        match member key entry state s with
        | .error fault => .error fault
        | .ok x =>
          match membersAfter key entry x.value x.rest with
          | .error fault => .error fault
          | .ok xs => .ok (x.after xs)

def afterColon {α : Type} (reader : Reader α) : Reader α := fun s =>
  match mark Byte.colon s with
  | .error fault => .error fault
  | .ok c =>
    match reader c.rest with
    | .error fault => .error fault
    | .ok x => .ok (c.after x)

def document {α : Type} (reader : Reader α) (s : List UInt8) : Except Fault α :=
  match reader s with
  | .error fault => .error fault
  | .ok x => if (skipBlanks x.rest).isEmpty then .ok x.value else .error .illFormed

end MessageInspector.Json
