import MessageInspector.Proofs.Json.Scan
/-!
# What is read between brackets

Blanks, marks and the loops over items and members, as scans. If items are framed then an array is
closed by its bracket, and if keys and entries are framed then an object is closed by its brace.
-/
namespace MessageInspector.Json
open Scan
variable {α β κ σ : Type} {s : List UInt8}

namespace Reader

def scan (reader : Reader α) : Scan α := reader.run

theorem scan_eq (reader : Reader α) (s : List UInt8) :
    reader.scan s =
      match reader s with
      | .error fault => .error fault
      | .ok x => .ok (x.value, x.rest) := by
  rw [scan, run]
  cases reader s <;> rfl

theorem scan_andThen (reader : Reader α) (g : α → Scan β) (s : List UInt8) :
    reader.scan.andThen g s =
      match reader s with
      | .error fault => .error fault
      | .ok x => g x.value x.rest := by
  rw [Scan.andThen, scan_eq]
  cases reader s <;> rfl

theorem map_scan (reader : Reader α) (f : α → β) (s : List UInt8) :
    reader.scan.map f s =
      match reader s with
      | .error fault => .error fault
      | .ok x => .ok (f x.value, x.rest) := by
  rw [Scan.map, scan_eq]
  cases reader s <;> rfl

theorem scan_map (f : α → β) (reader : Reader α) : (reader.map f).scan = reader.scan.map f := by
  funext s
  rw [scan_eq, map_scan, Reader.map]
  cases reader s <;> rfl

theorem length_lt_of_scan {reader : Reader α} {a : α} {rest : List UInt8}
    (h : reader.scan s = .ok (a, rest)) : rest.length < s.length := by
  rw [scan_eq] at h
  split at h
  · cases h
  · rename_i x _
    cases h
    exact x.shorter

end Reader

theorem next_of_blank (h : skipBlanks s = []) : next s = .error .incomplete := by
  rw [next]
  split
  · rfl
  · rename_i b rest h'
    rw [h] at h'
    cases h'

theorem next_of_visible {b : UInt8} {rest : List UInt8} (h : skipBlanks s = b :: rest) :
    next s = .ok ⟨b, rest, length_lt_of_skipBlanks_eq h⟩ := by
  rw [next]
  split
  · rename_i h'
    rw [h] at h'
    cases h'
  · rename_i b' rest' h'
    rw [h] at h'
    cases h'
    rfl

theorem scan_next : Reader.scan next = blanks.andThen fun _ => byte := by
  funext s
  have hblanks : blanks s = .ok ((), skipBlanks s) := rfl
  rw [andThen_of_ok hblanks, Reader.scan_eq]
  cases h : skipBlanks s with
  | nil =>
    rw [next_of_blank h]
    rfl
  | cons b rest =>
    rw [next_of_visible h]
    rfl

theorem scan_next_eq_ok {b : UInt8} {rest : List UInt8} :
    Reader.scan next s = .ok (b, rest) ↔ skipBlanks s = b :: rest := by
  have hblanks : blanks s = .ok ((), skipBlanks s) := rfl
  rw [scan_next, andThen_of_ok hblanks, byte_eq_ok]

theorem peek_andThen (g : UInt8 → Scan α) (s : List UInt8) :
    peek.andThen g s =
      match next s with
      | .error fault => .error fault
      | .ok c => g c.value s := by
  rw [Scan.andThen, peek]
  cases h : skipBlanks s with
  | nil => rw [next_of_blank h]
  | cons b rest => rw [next_of_visible h]

theorem scan_mark (b : UInt8) :
    Reader.scan (mark b) =
      (Reader.scan next).andThen fun c => if c = b then done () else fail .illFormed := by
  funext s
  rw [Reader.scan_andThen, Reader.scan_eq, mark]
  cases next s with
  | error fault => rfl
  | ok c => by_cases h : c.value = b <;> simp only [h, if_true, if_false] <;> rfl

theorem scan_afterColon (reader : Reader α) :
    (afterColon reader).scan = (Reader.scan (mark Byte.colon)).andThen fun _ => reader.scan := by
  funext s
  rw [Reader.scan_andThen, Reader.scan_eq, afterColon]
  cases mark Byte.colon s with
  | error fault => rfl
  | ok c =>
    simp only
    rw [Reader.scan_eq]
    cases reader c.rest <;> rfl

theorem scan_itemsAfter (item : Reader α) :
    Reader.scan (itemsAfter item) =
      (Reader.scan next).andThen fun c =>
        if c = Byte.closeBracket then done []
        else if c = Byte.comma then
          peek.andThen fun d =>
            if d = Byte.closeBracket then fail .illFormed
            else item.scan.andThen fun x => (Reader.scan (itemsAfter item)).map (x :: ·)
        else fail .illFormed := by
  funext s
  rw [Reader.scan_andThen, Reader.scan_eq, itemsAfter]
  cases next s with
  | error fault => rfl
  | ok c =>
    by_cases hclose : c.value = Byte.closeBracket
    · simp only [if_pos hclose]
      rfl
    by_cases hcomma : c.value = Byte.comma
    · simp only [if_neg hclose, if_pos hcomma, peek_andThen]
      cases next c.rest with
      | error fault => rfl
      | ok d =>
        by_cases hempty : d.value = Byte.closeBracket
        · simp only [if_pos hempty]
          rfl
        · simp only [if_neg hempty, Reader.scan_andThen]
          cases item c.rest with
          | error fault => rfl
          | ok x =>
            simp only [Reader.map_scan]
            cases itemsAfter item x.rest <;> rfl
    · simp only [if_neg hclose, if_neg hcomma]
      rfl

theorem scan_items (item : Reader α) :
    (items item).scan = peek.andThen fun c =>
      if c = Byte.closeBracket then (Reader.scan next).map fun _ => []
      else item.scan.andThen fun x => (Reader.scan (itemsAfter item)).map (x :: ·) := by
  funext s
  rw [peek_andThen, Reader.scan_eq, items]
  cases hn : next s with
  | error fault => rfl
  | ok c =>
    by_cases hclose : c.value = Byte.closeBracket
    · simp only [if_pos hclose, Reader.map_scan, hn]
      rfl
    · simp only [if_neg hclose, Reader.scan_andThen]
      cases item s with
      | error fault => rfl
      | ok x =>
        simp only [Reader.map_scan]
        cases itemsAfter item x.rest <;> rfl

theorem scan_member (key : Reader κ) (entry : σ → κ → Reader σ) (state : σ) :
    (member key entry state).scan = peek.andThen fun c =>
      if c = Byte.quote then key.scan.andThen fun k => (entry state k).scan
      else fail .illFormed := by
  funext s
  rw [peek_andThen, Reader.scan_eq, member]
  cases next s with
  | error fault => rfl
  | ok c =>
    by_cases hquote : c.value = Byte.quote
    · simp only [if_pos hquote, Reader.scan_andThen]
      cases key s with
      | error fault => rfl
      | ok k =>
        simp only [Reader.scan_eq]
        cases entry state k.value k.rest <;> rfl
    · simp only [if_neg hquote]
      rfl

theorem scan_membersAfter (key : Reader κ) (entry : σ → κ → Reader σ) (state : σ) :
    Reader.scan (membersAfter key entry state) =
      (Reader.scan next).andThen fun c =>
        if c = Byte.closeBrace then done state
        else if c = Byte.comma then
          (member key entry state).scan.andThen fun x => Reader.scan (membersAfter key entry x)
        else fail .illFormed := by
  funext s
  rw [Reader.scan_andThen, Reader.scan_eq, membersAfter]
  cases next s with
  | error fault => rfl
  | ok c =>
    by_cases hclose : c.value = Byte.closeBrace
    · simp only [if_pos hclose]
      rfl
    by_cases hcomma : c.value = Byte.comma
    · simp only [if_neg hclose, if_pos hcomma, Reader.scan_andThen]
      cases member key entry state c.rest with
      | error fault => rfl
      | ok x =>
        simp only [Reader.scan_eq]
        cases membersAfter key entry x.value x.rest <;> rfl
    · simp only [if_neg hclose, if_neg hcomma]
      rfl

theorem scan_members (key : Reader κ) (entry : σ → κ → Reader σ) (state : σ) :
    (members key entry state).scan = peek.andThen fun c =>
      if c = Byte.closeBrace then (Reader.scan next).map fun _ => state
      else
        (member key entry state).scan.andThen fun x => Reader.scan (membersAfter key entry x) := by
  funext s
  rw [peek_andThen, Reader.scan_eq, members]
  cases hn : next s with
  | error fault => rfl
  | ok c =>
    by_cases hclose : c.value = Byte.closeBrace
    · simp only [if_pos hclose, Reader.map_scan, hn]
      rfl
    · simp only [if_neg hclose, Reader.scan_andThen]
      cases member key entry state s with
      | error fault => rfl
      | ok x =>
        simp only [Reader.scan_eq]
        cases membersAfter key entry x.value x.rest <;> rfl

theorem returnsLast_next : ReturnsLast (Reader.scan next) := by
  rw [scan_next]
  exact returnsLast_byte.after framedAt_blanks

theorem visible_next : Visible (Reader.scan next) := by
  intro s b rest h hblank
  rw [scan_next_eq_ok, hblank] at h
  cases h

theorem framedAt_mark (b : UInt8) (s : List UInt8) : (Reader.scan (mark b)).FramedAt s := by
  rw [scan_mark]
  apply (returnsLast_next.framedAt s).andThen
  intro c rest _
  split
  · exact framedAt_done ()
  · exact framedAt_fail _

theorem framedAt_afterColon {reader : Reader α} (h : ∀ s, reader.scan.FramedAt s)
    (s : List UInt8) : (afterColon reader).scan.FramedAt s := by
  rw [scan_afterColon]
  exact (framedAt_mark Byte.colon s).andThen fun _ rest _ => h rest

theorem closedAt_next {last : UInt8} (h : (skipBlanks s).head? = some last) (a : α) :
    ((Reader.scan next).map fun _ => a).ClosedAt last s := by
  apply ClosedAt.map
  intro b rest hb
  obtain rfl : b = last := by
    rw [scan_next_eq_ok.mp hb] at h
    exact Option.some.inj h
  exact returnsLast_next s b rest hb

section Items
variable {item : Reader α} (framed : ∀ s, item.scan.FramedAt s) (visible : item.scan.Visible)
include framed visible

theorem closedAt_itemsAfter (s : List UInt8) :
    (Reader.scan (itemsAfter item)).ClosedAt Byte.closeBracket s := by
  induction hn : s.length using Nat.strongRecOn generalizing s with
  | ind n ih =>
    rw [scan_itemsAfter]
    apply returnsLast_next.closedAt_until
    intro c rest hc _
    have hrest := Reader.length_lt_of_scan hc
    split
    · apply closedAt_peek
      · intro d
        split
        · exact visible_fail _
        · exact visible.andThen _
      · intro d _
        split
        · exact closedAt_fail _ _
        · apply (framed rest).andThenClosed
          intro x t hx
          have ht := Reader.length_lt_of_scan hx
          exact (ih t.length (by omega) t rfl).map _
    · exact closedAt_fail _ _

/-- An array ends with its bracket, and nothing after the bracket changes what its items are. -/
theorem closedAt_items (s : List UInt8) : (items item).scan.ClosedAt Byte.closeBracket s := by
  rw [scan_items]
  apply closedAt_peek
  · intro c
    split
    · exact visible_next.map _
    · exact visible.andThen _
  · intro c hc
    split
    · rename_i hclose
      exact closedAt_next (hclose ▸ hc) _
    · apply (framed s).andThenClosed
      intro x t _
      exact (closedAt_itemsAfter framed visible t).map _

end Items

section Members
variable {key : Reader κ} {entry : σ → κ → Reader σ} (keyFramed : ∀ s, key.scan.FramedAt s)
  (keyVisible : key.scan.Visible) (entryFramed : ∀ state k s, (entry state k).scan.FramedAt s)

theorem visible_member (state : σ) : (member key entry state).scan.Visible := by
  rw [scan_member]
  exact visible_peek.andThen _

include keyFramed keyVisible entryFramed

theorem framedAt_member (state : σ) (s : List UInt8) :
    (member key entry state).scan.FramedAt s := by
  rw [scan_member]
  apply framedAt_peek
  · intro c
    split
    · exact keyVisible.andThen _
    · exact visible_fail _
  · intro c _
    split
    · exact (keyFramed s).andThen fun k t _ => entryFramed state k t
    · exact framedAt_fail _

theorem closedAt_membersAfter (state : σ) (s : List UInt8) :
    (Reader.scan (membersAfter key entry state)).ClosedAt Byte.closeBrace s := by
  induction hn : s.length using Nat.strongRecOn generalizing state s with
  | ind n ih =>
    rw [scan_membersAfter]
    apply returnsLast_next.closedAt_until
    intro c rest hc _
    have hrest := Reader.length_lt_of_scan hc
    split
    · apply (framedAt_member keyFramed keyVisible entryFramed state rest).andThenClosed
      intro x t hx
      have ht := Reader.length_lt_of_scan hx
      exact ih t.length (by omega) x t rfl
    · exact closedAt_fail _ _

theorem closedAt_members (state : σ) (s : List UInt8) :
    (members key entry state).scan.ClosedAt Byte.closeBrace s := by
  rw [scan_members]
  apply closedAt_peek
  · intro c
    split
    · exact visible_next.map _
    · exact (visible_member state).andThen _
  · intro c hc
    split
    · rename_i hclose
      exact closedAt_next (hclose ▸ hc) _
    · apply (framedAt_member keyFramed keyVisible entryFramed state s).andThenClosed
      intro x t _
      exact closedAt_membersAfter keyFramed keyVisible entryFramed x t

end Members
end MessageInspector.Json
