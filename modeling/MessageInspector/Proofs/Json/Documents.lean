import Mathlib.Data.List.TakeWhile
import MessageInspector.Json.Document
import MessageInspector.Proofs.Json.Literals
import MessageInspector.Proofs.Json.Numerals
/-!
# Where a document ends

Values of every kind are framed. A container is closed: a text that holds it up to its closing byte
reads as the same container, and no shorter part of the text reads as any container.
-/
namespace MessageInspector.Json
open Scan
variable {α : Type} {s : List UInt8}

def fixedWord (letters : List UInt8) (a : α) : Scan α := fun s => (word letters s).map (a, ·)

theorem word_eq_ok {letters rest : List UInt8} :
    word letters s = .ok rest ↔ s = letters ++ rest := by
  induction letters generalizing s with
  | nil => simp [word]
  | cons l letters ih =>
    cases s with
    | nil => simp [word]
    | cons c s =>
      by_cases hc : c = l
      · simp [word, hc, ih]
      · simp [word, hc]

theorem fixedWord_eq_ok {letters rest : List UInt8} {a b : α} :
    fixedWord letters a s = .ok (b, rest) ↔ a = b ∧ s = letters ++ rest := by
  rw [← word_eq_ok, fixedWord]
  cases word letters s <;> simp [Except.map]

theorem framedAt_fixedWord (letters : List UInt8) (a : α) (s : List UInt8) :
    (fixedWord letters a).FramedAt s := by
  intro b rest h
  obtain ⟨hb, hs⟩ := fixedWord_eq_ok.mp h
  exact ⟨letters, hs, fun _ _ => fixedWord_eq_ok.mpr ⟨hb, rfl⟩⟩

section Dispatch
variable (atNull atTrue atFalse : α) (number string array object : Reader α)

def branch (c : UInt8) : Scan α :=
  if c = 0x6E then (Reader.scan next).andThen fun _ => fixedWord lettersOfNull atNull
  else if c = 0x74 then (Reader.scan next).andThen fun _ => fixedWord lettersOfTrue atTrue
  else if c = 0x66 then (Reader.scan next).andThen fun _ => fixedWord lettersOfFalse atFalse
  else if c = Byte.minus ∨ Byte.isDigit c then number.scan
  else if c = Byte.quote then string.scan
  else if c = Byte.openBracket then (Reader.scan next).andThen fun _ => array.scan
  else if c = Byte.openBrace then (Reader.scan next).andThen fun _ => object.scan
  else fail .illFormed

theorem run_wordValue (letters : List UInt8) (a : α) {rest : List UInt8}
    (h : rest.length < s.length) :
    (wordValue letters a s rest h).map (fun x => (x.value, x.rest)) = fixedWord letters a rest := by
  rw [wordValue]
  split
  · rename_i hw
    simp only [fixedWord, hw, Except.map]
  · rename_i hw
    simp only [fixedWord, hw, Except.map]

theorem scan_dispatch :
    (dispatch atNull atTrue atFalse number string array object).scan =
      peek.andThen (branch atNull atTrue atFalse number string array object) := by
  funext s
  rw [peek_andThen, Reader.scan, Reader.run, dispatch]
  cases hn : next s with
  | error fault => rfl
  | ok c =>
    have hword (letters : List UInt8) (a : α) :
        (wordValue letters a s c.rest c.shorter).map (fun x => (x.value, x.rest)) =
          (Reader.scan next).andThen (fun _ => fixedWord letters a) s := by
      rw [Reader.scan_andThen, hn, run_wordValue]
    simp only [branch]
    repeat' split
    · exact hword lettersOfNull atNull
    · exact hword lettersOfTrue atTrue
    · exact hword lettersOfFalse atFalse
    · rfl
    · rfl
    · rename_i harray
      simp only [Reader.scan_andThen, hn, Reader.scan_eq, harray, Except.map]
    · rename_i harray
      simp only [Reader.scan_andThen, hn, Reader.scan_eq, harray, Except.map, Taken.after,
        Taken.widen]
    · rename_i hobject
      simp only [Reader.scan_andThen, hn, Reader.scan_eq, hobject, Except.map]
    · rename_i hobject
      simp only [Reader.scan_andThen, hn, Reader.scan_eq, hobject, Except.map, Taken.after,
        Taken.widen]
    · rfl

variable {atNull atTrue atFalse : α} {number string array object : Reader α}
  (numberVisible : number.scan.Visible) (stringVisible : string.scan.Visible)
include numberVisible stringVisible

theorem visible_branch (c : UInt8) :
    (branch atNull atTrue atFalse number string array object c).Visible := by
  rw [branch]
  repeat' split
  · exact visible_next.andThen _
  · exact visible_next.andThen _
  · exact visible_next.andThen _
  · exact numberVisible
  · exact stringVisible
  · exact visible_next.andThen _
  · exact visible_next.andThen _
  · exact visible_fail _

theorem framedAt_dispatch (numberFramed : ∀ s, number.scan.FramedAt s)
    (stringFramed : ∀ s, string.scan.FramedAt s) (arrayFramed : ∀ s, array.scan.FramedAt s)
    (objectFramed : ∀ s, object.scan.FramedAt s) (s : List UInt8) :
    (dispatch atNull atTrue atFalse number string array object).scan.FramedAt s := by
  have hnext := returnsLast_next.framedAt s
  rw [scan_dispatch]
  apply framedAt_peek (visible_branch numberVisible stringVisible)
  intro c _
  rw [branch]
  repeat' split
  · exact hnext.andThen fun _ rest _ => framedAt_fixedWord _ _ rest
  · exact hnext.andThen fun _ rest _ => framedAt_fixedWord _ _ rest
  · exact hnext.andThen fun _ rest _ => framedAt_fixedWord _ _ rest
  · exact numberFramed s
  · exact stringFramed s
  · exact hnext.andThen fun _ rest _ => arrayFramed rest
  · exact hnext.andThen fun _ rest _ => objectFramed rest
  · exact framedAt_fail _

end Dispatch

def arrayRest : (depth : Nat) → Reader Value
  | 0 => tooDeep
  | depth + 1 => (items (value depth)).map .array

def objectRest : (depth : Nat) → Reader Value
  | 0 => tooDeep
  | depth + 1 => (members literal (valueEntry (value depth)) []).map .object

def valueBranch (depth : Nat) : UInt8 → Scan Value :=
  branch .null (.bool true) (.bool false) (numeral.map .number) (literal.map .string)
    (arrayRest depth) (objectRest depth)

theorem value_eq (depth : Nat) :
    value depth = dispatch .null (.bool true) (.bool false) (numeral.map .number)
      (literal.map .string) (arrayRest depth) (objectRest depth) := by
  cases depth <;> rfl

theorem scan_value (depth : Nat) : (value depth).scan = peek.andThen (valueBranch depth) := by
  rw [value_eq, scan_dispatch, valueBranch]

theorem visible_number : (numeral.map Value.number).scan.Visible := by
  rw [Reader.scan_map]
  exact visible_numeral.map _

theorem visible_string : (literal.map Value.string).scan.Visible := by
  rw [Reader.scan_map]
  exact visible_literal.map _

theorem visible_valueBranch (depth : Nat) (c : UInt8) : (valueBranch depth c).Visible :=
  visible_branch visible_number visible_string c

theorem visible_value (depth : Nat) : (value depth).scan.Visible := by
  rw [scan_value]
  exact visible_peek.andThen _

section Rest
variable {depth : Nat} (framedBelow : ∀ d < depth, ∀ s, (value d).scan.FramedAt s)
include framedBelow

theorem closedAt_arrayRest (s : List UInt8) :
    (arrayRest depth).scan.ClosedAt Byte.closeBracket s := by
  cases depth with
  | zero => exact closedAt_fail _ _
  | succ d =>
    rw [arrayRest, Reader.scan_map]
    exact (closedAt_items (framedBelow d d.lt_succ_self) (visible_value d) s).map _

theorem closedAt_objectRest (s : List UInt8) :
    (objectRest depth).scan.ClosedAt Byte.closeBrace s := by
  cases depth with
  | zero => exact closedAt_fail _ _
  | succ d =>
    rw [objectRest, Reader.scan_map]
    apply ClosedAt.map
    apply closedAt_members _ visible_literal
    · intro read key t
      apply framedAt_afterColon
      intro t
      rw [Reader.scan_map]
      exact (framedBelow d d.lt_succ_self t).map _
    · intro t
      exact (closedAt_literal t).framedAt

end Rest

theorem framedAt_value (depth : Nat) (s : List UInt8) : (value depth).scan.FramedAt s := by
  induction depth using Nat.strongRecOn generalizing s with
  | ind depth ih =>
    rw [value_eq]
    apply framedAt_dispatch visible_number visible_string
    · intro t
      rw [Reader.scan_map]
      exact (framedAt_numeral t).map _
    · intro t
      rw [Reader.scan_map]
      exact (closedAt_literal t).framedAt.map _
    · intro t
      exact (closedAt_arrayRest ih t).framedAt
    · intro t
      exact (closedAt_objectRest ih t).framedAt

/-- The byte that ends a container. -/
def Value.closer? : Value → Option UInt8
  | array _ => some Byte.closeBracket
  | object _ => some Byte.closeBrace
  | _ => none

theorem closer_of_arrayRest {depth : Nat} {v : Value} {rest : List UInt8}
    (h : (arrayRest depth).scan s = .ok (v, rest)) : v.closer? = some Byte.closeBracket := by
  cases depth with
  | zero => cases h
  | succ d =>
    rw [arrayRest, Reader.scan_map] at h
    obtain ⟨xs, -, rfl⟩ := map_eq_ok.mp h
    rfl

theorem closer_of_objectRest {depth : Nat} {v : Value} {rest : List UInt8}
    (h : (objectRest depth).scan s = .ok (v, rest)) : v.closer? = some Byte.closeBrace := by
  cases depth with
  | zero => cases h
  | succ d =>
    rw [objectRest, Reader.scan_map] at h
    obtain ⟨ms, -, rfl⟩ := map_eq_ok.mp h
    rfl

theorem opener_of_closer {depth : Nat} {c last : UInt8} {v : Value} {rest : List UInt8}
    (h : valueBranch depth c s = .ok (v, rest)) (hv : v.closer? = some last) :
    c = Byte.openBracket ∧ last = Byte.closeBracket ∨
      c = Byte.openBrace ∧ last = Byte.closeBrace := by
  have hword {letters : List UInt8} {w : Value} (hw : w.closer? = none) :
      ¬ (Reader.scan next).andThen (fun _ => fixedWord letters w) s = .ok (v, rest) := by
    intro h
    obtain ⟨_, _, _, hfixed⟩ := andThen_eq_ok.mp h
    obtain ⟨rfl, -⟩ := fixedWord_eq_ok.mp hfixed
    rw [hw] at hv
    cases hv
  revert h
  rw [valueBranch, branch]
  repeat' split
  · exact fun h => absurd h (hword rfl)
  · exact fun h => absurd h (hword rfl)
  · exact fun h => absurd h (hword rfl)
  · intro h
    rw [Reader.scan_map] at h
    obtain ⟨n, -, rfl⟩ := map_eq_ok.mp h
    cases hv
  · intro h
    rw [Reader.scan_map] at h
    obtain ⟨text, -, rfl⟩ := map_eq_ok.mp h
    cases hv
  · rename_i hc
    intro h
    obtain ⟨_, t, _, harray⟩ := andThen_eq_ok.mp h
    have hclose := closer_of_arrayRest harray
    exact .inl ⟨hc, Option.some.inj (hv.symm.trans hclose)⟩
  · rename_i hc
    intro h
    obtain ⟨_, t, _, hobject⟩ := andThen_eq_ok.mp h
    have hclose := closer_of_objectRest hobject
    exact .inr ⟨hc, Option.some.inj (hv.symm.trans hclose)⟩
  · intro h
    cases h

theorem closedAt_valueBranch_bracket (depth : Nat) (s : List UInt8) :
    (valueBranch depth Byte.openBracket).ClosedAt Byte.closeBracket s := by
  have hbranch : valueBranch depth Byte.openBracket =
      (Reader.scan next).andThen fun _ => (arrayRest depth).scan := rfl
  rw [hbranch]
  apply (returnsLast_next.framedAt s).andThenClosed
  intro _ rest _
  exact closedAt_arrayRest (fun d _ => framedAt_value d) rest

theorem closedAt_valueBranch_brace (depth : Nat) (s : List UInt8) :
    (valueBranch depth Byte.openBrace).ClosedAt Byte.closeBrace s := by
  have hbranch : valueBranch depth Byte.openBrace =
      (Reader.scan next).andThen fun _ => (objectRest depth).scan := rfl
  rw [hbranch]
  apply (returnsLast_next.framedAt s).andThenClosed
  intro _ rest _
  exact closedAt_objectRest (fun d _ => framedAt_value d) rest

/-- Nothing after its closing byte changes what a container holds. -/
theorem closedAt_value {depth : Nat} {v : Value} {rest : List UInt8} {last : UInt8}
    (h : (value depth).scan s = .ok (v, rest)) (hv : v.closer? = some last) :
    (value depth).scan.ClosedAt last s := by
  rw [scan_value] at h ⊢
  obtain ⟨b, t, hb, hbranch⟩ := andThen_eq_ok.mp h
  obtain ⟨hhead, rfl⟩ := peek_eq_ok.mp hb
  apply closedAt_peek (visible_valueBranch depth)
  intro c hc
  obtain rfl : b = c := Option.some.inj (hhead.symm.trans hc)
  obtain ⟨rfl, rfl⟩ | ⟨rfl, rfl⟩ := opener_of_closer hbranch hv
  · exact closedAt_valueBranch_bracket depth t
  · exact closedAt_valueBranch_brace depth t

theorem scan_value_append {depth : Nat} {v : Value} {rest : List UInt8} {last : UInt8}
    (h : (value depth).scan s = .ok (v, rest)) (hv : v.closer? = some last) (more : List UInt8) :
    (value depth).scan (s ++ more) = .ok (v, rest ++ more) := by
  obtain ⟨inner, rfl, hall⟩ := closedAt_value h hv v rest h
  rw [List.append_assoc, List.cons_append]
  exact hall (rest ++ more)

theorem document_eq_ok {reader : Reader α} {a : α} :
    document reader s = .ok a ↔ ∃ rest, reader.scan s = .ok (a, rest) ∧ skipBlanks rest = [] := by
  rw [document, Reader.scan_eq]
  cases reader s with
  | error fault => simp
  | ok x =>
    by_cases hx : skipBlanks x.rest = []
    · simp only [hx, List.isEmpty_nil, if_true, Except.ok.injEq, Prod.mk.injEq]
      constructor
      · intro ha
        exact ⟨x.rest, ⟨ha, rfl⟩, hx⟩
      · rintro ⟨rest, ⟨ha, -⟩, -⟩
        exact ha
    · simp only [List.isEmpty_iff, hx, if_false, Except.ok.injEq, Prod.mk.injEq, reduceCtorEq,
        false_iff]
      rintro ⟨rest, ⟨-, rfl⟩, hblank⟩
      exact hx hblank

theorem skipBlanks_eq_nil : skipBlanks s = [] ↔ ∀ b ∈ s, Byte.isBlank b = true := by
  rw [skipBlanks, List.dropWhile_eq_nil_iff]

/-- Cut after its closing byte, the text of a container still reads as that container, and cut
before it as none. -/
theorem read_take {v : Value} {last : UInt8} (h : read s = .ok v) (hv : v.closer? = some last) :
    ∃ inner blanks, s = inner ++ last :: blanks ∧ (∀ b ∈ blanks, Byte.isBlank b = true) ∧
      (∀ n, inner.length < n → read (s.take n) = .ok v) ∧
      ∀ n ≤ inner.length, ∀ w, read (s.take n) = .ok w → w.closer? = none := by
  obtain ⟨rest, hscan, hblank⟩ := document_eq_ok.mp h
  obtain ⟨inner, rfl, hall⟩ := closedAt_value hscan hv v rest hscan
  rw [skipBlanks_eq_nil] at hblank
  refine ⟨inner, rest, rfl, hblank, ?_, ?_⟩
  · intro n hn
    obtain ⟨k, rfl⟩ : ∃ k, n = inner.length + (k + 1) := ⟨n - inner.length - 1, by omega⟩
    rw [List.take_length_add_append, List.take_succ_cons]
    refine document_eq_ok.mpr ⟨rest.take k, hall _, ?_⟩
    rw [skipBlanks_eq_nil]
    intro b hb
    exact hblank b (List.mem_of_mem_take hb)
  · intro n hn w hw
    obtain ⟨rest', hscan', -⟩ := document_eq_ok.mp hw
    cases hlast' : w.closer? with
    | none => rfl
    | some last' =>
      have hwhole := scan_value_append hscan' hlast' ((inner ++ last :: rest).drop n)
      rw [List.take_append_drop, hscan] at hwhole
      have hrest : rest = rest' ++ (inner ++ last :: rest).drop n :=
        congrArg Prod.snd (Except.ok.inj hwhole)
      have hlength := congrArg List.length hrest
      simp only [List.length_append, List.length_drop, List.length_cons] at hlength
      omega

end MessageInspector.Json
