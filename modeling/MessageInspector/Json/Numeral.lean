import MessageInspector.Json.Reader
import MessageInspector.Json.Value
/-!
# Reading numbers

A number without fraction and exponent that fits 64 bits is an integer; minus zero and all other
numbers are doubles. A double is its leading digits, as far as they fit an unsigned 64-bit
significand, times or divided by a power of ten in double arithmetic; later digits only count
towards the magnitude. A double beyond the largest one is a fault of the text.
-/
namespace MessageInspector.Json

def takeDigits : List UInt8 → List Nat × List UInt8
  | [] => ([], [])
  | b :: rest =>
    if Byte.isDigit b then
      let r := takeDigits rest
      ((b.toNat - 0x30) :: r.1, r.2)
    else ([], b :: rest)

theorem length_takeDigits (s : List UInt8) :
    (takeDigits s).1.length + (takeDigits s).2.length = s.length := by
  induction s with
  | nil => rfl
  | cons b s ih =>
    simp only [takeDigits]
    split
    · simp only [List.length_cons]; omega
    · simp

def largestUnsigned : Nat := 0xFFFFFFFFFFFFFFFF
def largestNegated : Nat := 0x8000000000000000

def pushDigit? (significand digit : Nat) : Option Nat :=
  let next := significand * 10 + digit
  if next ≤ largestUnsigned then some next else none

/-- Take in the digits before the point: the significand, and how many digits did not go in. From
the first digit that does not fit, none does. -/
def absorbWhole (significand : Nat) : List Nat → Nat × Nat
  | [] => (significand, 0)
  | d :: ds =>
    match pushDigit? significand d with
    | some next => absorbWhole next ds
    | none => (significand, ds.length + 1)

/-- Take in the digits after the point: the significand, and how many digits went in. From the
first digit that does not fit, the digits are dropped. -/
def absorbFraction (significand : Nat) : List Nat → Nat × Nat
  | [] => (significand, 0)
  | d :: ds =>
    match pushDigit? significand d with
    | some next => let r := absorbFraction next ds; (r.1, r.2 + 1)
    | none => (significand, 0)

def largestDecimalStep : Nat := 308

def powerOfTen (n : Nat) : Float := Float.ofScientific 1 false n

/-- Divide by a power of ten in steps that are doubles themselves. -/
def divideByPower (x : Float) (n : Nat) : Float :=
  if n ≤ largestDecimalStep then x / powerOfTen n
  else if x == 0 then x
  else divideByPower (x / powerOfTen largestDecimalStep) (n - largestDecimalStep)
termination_by n
decreasing_by simp only [largestDecimalStep] at *; omega

/-- `significand * 10 ^ exponent` as a double; none if it is too large for one. -/
def scaled? (significand : Nat) (exponent : Int) : Option Float :=
  let x := Float.ofNat significand
  if exponent < 0 then some (divideByPower x exponent.natAbs)
  else if exponent.toNat ≤ largestDecimalStep then
    let y := x * powerOfTen exponent.toNat
    if y.isInf then none else some y
  else if significand = 0 then some x
  else none

/-- Exponents are read as signed 32-bit numbers. -/
def largestExponent : Nat := 0x7FFFFFFF

def signed (negative : Bool) (x : Float) : Number := .real (if negative then -x else x)

/-- The double with the given parts. An exponent out of range makes it too large or zero. -/
def assemble (negative : Bool) (significand : Nat) (shift : Int) (exponentNegative : Bool)
    (exponent : Nat) : Except Fault Number :=
  if largestExponent < exponent then
    if significand ≠ 0 ∧ exponentNegative = false then .error .illFormed
    else .ok (signed negative 0)
  else
    let total := if exponentNegative then shift - exponent else shift + exponent
    match scaled? significand total with
    | some x => .ok (signed negative x)
    | none => .error .illFormed

/-- The number without fraction and exponent: an integer if it fits 64 bits. -/
def wholeNumber (negative : Bool) (significand dropped : Nat) : Except Fault Number :=
  if dropped = 0 then
    if !negative then .ok (.int significand)
    else if 0 < significand ∧ significand ≤ largestNegated then .ok (.int (-(significand : Int)))
    else .ok (signed true (Float.ofNat significand))
  else assemble negative significand dropped false 0

def valueOfDigits (ds : List Nat) : Nat := ds.foldl (fun n d => n * 10 + d) 0

/-- Digits that must not be missing: the text ends too early if nothing follows. -/
def needDigits (s : List UInt8) : Except Fault (List Nat × List UInt8) :=
  match takeDigits s with
  | ([], []) => .error .incomplete
  | ([], _ :: _) => .error .illFormed
  | r => .ok r

theorem length_lt_of_needDigits {s rest : List UInt8} {ds : List Nat}
    (h : needDigits s = .ok (ds, rest)) : rest.length < s.length := by
  have hl := length_takeDigits s
  revert h hl
  unfold needDigits
  generalize takeDigits s = r
  obtain ⟨ds', rest'⟩ := r
  cases ds' with
  | nil => cases rest' <;> simp
  | cons d ds' =>
    simp only [Except.ok.injEq, Prod.mk.injEq, List.length_cons, and_imp]
    rintro - rfl h
    omega

def isExponentMark (b : UInt8) : Bool := b == 0x65 || b == 0x45

def exponentSign : List UInt8 → Bool × List UInt8
  | b :: rest =>
    if b = Byte.plus then (false, rest)
    else if b = Byte.minus then (true, rest)
    else (false, b :: rest)
  | [] => (false, [])

theorem length_exponentSign_le (s : List UInt8) : (exponentSign s).2.length ≤ s.length := by
  unfold exponentSign
  repeat' split
  all_goals simp

def withExponent (negative : Bool) (significand : Nat) (shift : Int) (s : List UInt8) :
    Except Fault (Number × List UInt8) :=
  match needDigits (exponentSign s).2 with
  | .error fault => .error fault
  | .ok (ds, rest) =>
    match assemble negative significand shift (exponentSign s).1 (valueOfDigits ds) with
    | .error fault => .error fault
    | .ok n => .ok (n, rest)

def afterWhole (negative : Bool) (significand dropped : Nat) (s : List UInt8) :
    Except Fault (Number × List UInt8) :=
  match s with
  | [] => (wholeNumber negative significand dropped).map (·, [])
  | b :: rest =>
    if b = Byte.point then
      match needDigits rest with
      | .error fault => .error fault
      | .ok (ds, rest) =>
        let fraction := absorbFraction significand ds
        let shift : Int := dropped - fraction.2
        match rest with
        | [] => (assemble negative fraction.1 shift false 0).map (·, [])
        | e :: rest' =>
          if isExponentMark e then withExponent negative fraction.1 shift rest'
          else (assemble negative fraction.1 shift false 0).map (·, rest)
    else if isExponentMark b then withExponent negative significand dropped rest
    else (wholeNumber negative significand dropped).map (·, s)

def unsignedNumber (negative : Bool) (s : List UInt8) : Except Fault (Number × List UInt8) :=
  match needDigits s with
  | .error fault => .error fault
  | .ok (ds, rest) =>
    if ds.head? = some 0 ∧ 1 < ds.length then .error .illFormed
    else
      let whole := absorbWhole 0 ds
      afterWhole negative whole.1 whole.2 rest

theorem length_le_of_withExponent {negative : Bool} {significand : Nat} {shift : Int}
    {s rest : List UInt8} {n : Number}
    (h : withExponent negative significand shift s = .ok (n, rest)) : rest.length ≤ s.length := by
  unfold withExponent at h
  split at h
  · simp at h
  · rename_i ds r hd
    have h1 := length_lt_of_needDigits hd
    have h2 := length_exponentSign_le s
    split at h
    · simp at h
    · simp only [Except.ok.injEq, Prod.mk.injEq] at h
      obtain ⟨-, rfl⟩ := h
      omega

theorem rest_of_map_pair {r : Except Fault Number} {t rest : List UInt8} {n : Number}
    (h : r.map (·, t) = .ok (n, rest)) : rest = t := by
  cases r with
  | error fault => simp [Except.map] at h
  | ok m =>
    simp only [Except.map, Except.ok.injEq, Prod.mk.injEq] at h
    exact h.2.symm

theorem length_le_of_afterWhole {negative : Bool} {significand dropped : Nat}
    {s rest : List UInt8} {n : Number}
    (h : afterWhole negative significand dropped s = .ok (n, rest)) :
    rest.length ≤ s.length := by
  unfold afterWhole at h
  split at h
  · exact Nat.le_of_eq (congrArg List.length (rest_of_map_pair h))
  · rename_i b t
    split at h
    · split at h
      · simp at h
      · rename_i ds r hd
        have h1 := length_lt_of_needDigits hd
        dsimp only at h
        split at h
        · exact Nat.le_trans (Nat.le_of_eq (congrArg List.length (rest_of_map_pair h)))
            (Nat.zero_le _)
        · split at h
          · have h2 := length_le_of_withExponent h
            simp only [List.length_cons] at h1 ⊢
            omega
          · have h2 := congrArg List.length (rest_of_map_pair h)
            simp only [List.length_cons] at h1 h2 ⊢
            omega
    · split at h
      · have h2 := length_le_of_withExponent h
        simp only [List.length_cons]
        omega
      · exact Nat.le_of_eq (congrArg List.length (rest_of_map_pair h))

theorem length_lt_of_unsignedNumber {negative : Bool} {s rest : List UInt8} {n : Number}
    (h : unsignedNumber negative s = .ok (n, rest)) : rest.length < s.length := by
  unfold unsignedNumber at h
  split at h
  · simp at h
  · rename_i ds r hd
    have h1 := length_lt_of_needDigits hd
    split at h
    · simp at h
    · have h2 := length_le_of_afterWhole h
      omega

def numeral : Reader Number := fun s =>
  match h : skipBlanks s with
  | [] => .error .incomplete
  | b :: rest =>
    have hs := length_lt_of_skipBlanks_eq h
    if b = Byte.minus then
      match hn : unsignedNumber true rest with
      | .error fault => .error fault
      | .ok (n, rest') =>
        .ok ⟨n, rest', Nat.lt_trans (length_lt_of_unsignedNumber hn) hs⟩
    else
      match hn : unsignedNumber false (b :: rest) with
      | .error fault => .error fault
      | .ok (n, rest') =>
        .ok ⟨n, rest', Nat.lt_of_lt_of_le (length_lt_of_unsignedNumber hn)
          (Nat.succ_le_of_lt hs)⟩

/-- Pass over the digits that must stand here. A skipped number breaks the grammar, and does not
end too early, when they are missing. -/
def skipDigits (s : List UInt8) : Except Fault (List Nat × List UInt8) :=
  match takeDigits s with
  | ([], _) => .error .illFormed
  | r => .ok r

def skipExponent : List UInt8 → Except Fault (List UInt8)
  | [] => .ok []
  | b :: rest =>
    if isExponentMark b then (skipDigits (exponentSign rest).2).map (·.2) else .ok (b :: rest)

def skipFraction : List UInt8 → Except Fault (List UInt8)
  | [] => .ok []
  | b :: rest =>
    if b = Byte.point then
      match skipDigits rest with
      | .error fault => .error fault
      | .ok (_, rest') => skipExponent rest'
    else skipExponent (b :: rest)

def skipUnsigned (s : List UInt8) : Except Fault (List UInt8) :=
  match skipDigits s with
  | .error fault => .error fault
  | .ok (ds, rest) =>
    if ds.head? = some 0 ∧ 1 < ds.length then .error .illFormed else skipFraction rest

theorem length_lt_of_skipDigits {s rest : List UInt8} {ds : List Nat}
    (h : skipDigits s = .ok (ds, rest)) : rest.length < s.length := by
  have hl := length_takeDigits s
  revert h hl
  unfold skipDigits
  generalize takeDigits s = r
  obtain ⟨ds', rest'⟩ := r
  cases ds' with
  | nil => simp
  | cons d ds' =>
    simp only [Except.ok.injEq, Prod.mk.injEq, List.length_cons, and_imp]
    rintro - rfl h
    omega

theorem length_le_of_skipExponent {s rest : List UInt8} (h : skipExponent s = .ok rest) :
    rest.length ≤ s.length := by
  unfold skipExponent at h
  split at h
  · simp only [Except.ok.injEq] at h; simp [← h]
  · rename_i b t
    split at h
    · cases hd : skipDigits (exponentSign t).2 with
      | error fault => simp [hd, Except.map] at h
      | ok r =>
        simp only [hd, Except.map, Except.ok.injEq] at h
        have h1 := length_lt_of_skipDigits hd
        have h2 := length_exponentSign_le t
        simp only [← h, List.length_cons]
        omega
    · simp only [Except.ok.injEq] at h; simp [← h]

theorem length_lt_of_skipUnsigned {s rest : List UInt8} (h : skipUnsigned s = .ok rest) :
    rest.length < s.length := by
  unfold skipUnsigned at h
  split at h
  · simp at h
  · rename_i ds r hd
    have h1 := length_lt_of_skipDigits hd
    split at h
    · simp at h
    · unfold skipFraction at h
      split at h
      · simp only [Except.ok.injEq] at h
        simp only [← h]
        exact h1
      · rename_i b t
        split at h
        · split at h
          · simp at h
          · rename_i r' hd'
            have h2 := length_lt_of_skipDigits hd'
            have h3 := length_le_of_skipExponent h
            simp only [List.length_cons] at h1
            omega
        · have h3 := length_le_of_skipExponent h
          omega

def skipNumeral : Reader Unit := fun s =>
  match h : skipBlanks s with
  | [] => .error .incomplete
  | b :: rest =>
    have hs := length_lt_of_skipBlanks_eq h
    if b = Byte.minus then
      match hn : skipUnsigned rest with
      | .error fault => .error fault
      | .ok rest' => .ok ⟨(), rest', Nat.lt_trans (length_lt_of_skipUnsigned hn) hs⟩
    else
      match hn : skipUnsigned (b :: rest) with
      | .error fault => .error fault
      | .ok rest' =>
        .ok ⟨(), rest', Nat.lt_of_lt_of_le (length_lt_of_skipUnsigned hn) (Nat.succ_le_of_lt hs)⟩

end MessageInspector.Json
