import MessageInspector.Json.Reader
/-!
# What follows a token

A scan takes something from the front of a text and leaves the rest. All readers are put together
from scans that are framed: what they take depends on what they take it from and at most on the one
byte after it. A scan that ends with a closing byte does not depend on what follows at all.
-/
namespace MessageInspector.Json

abbrev Scan (α : Type) := List UInt8 → Except Fault (α × List UInt8)

/-- Seen from what stands before it, `other` goes on as `rest` does, or ends the text. -/
def Follows (rest other : List UInt8) : Prop := other = [] ∨ other.head? = rest.head?

theorem Follows.append {rest other : List UInt8} (h : Follows rest other) (front : List UInt8) :
    Follows (front ++ rest) (front ++ other) := by
  cases front with
  | nil => exact h
  | cons b front => exact .inr rfl

theorem follows_cons (b : UInt8) (rest other : List UInt8) : Follows (b :: rest) (b :: other) :=
  .inr rfl

theorem Follows.stops {rest other : List UInt8} {p : UInt8 → Prop} (h : Follows rest other)
    (hrest : ∀ b ∈ rest.head?, p b) : ∀ b ∈ other.head?, p b := by
  obtain rfl | hhead := h
  · exact nofun
  · rw [hhead]
    exact hrest

namespace Scan
variable {α β : Type} {s : List UInt8}

def done (a : α) : Scan α := fun s => .ok (a, s)

def fail (fault : Fault) : Scan α := fun _ => .error fault

def yield (r : Except Fault α) : Scan α := fun s => r.map (·, s)

def byte : Scan UInt8
  | [] => .error .incomplete
  | b :: rest => .ok (b, rest)

def andThen (f : Scan α) (g : α → Scan β) : Scan β := fun s =>
  match f s with
  | .error fault => .error fault
  | .ok (a, rest) => g a rest

def map (f : α → β) (scan : Scan α) : Scan β := fun s => (scan s).map fun x => (f x.1, x.2)

/-- The first byte that is not blank, which stays where it is. -/
def peek : Scan UInt8 := fun s =>
  match skipBlanks s with
  | [] => .error .incomplete
  | b :: _ => .ok (b, s)

theorem andThen_eq_ok {f : Scan α} {g : α → Scan β} {b : β} {rest : List UInt8} :
    f.andThen g s = .ok (b, rest) ↔ ∃ a t, f s = .ok (a, t) ∧ g a t = .ok (b, rest) := by
  simp only [andThen]
  cases f s with
  | error fault => simp
  | ok x =>
    constructor
    · intro h
      exact ⟨x.1, x.2, rfl, h⟩
    · rintro ⟨a, t, hx, h⟩
      cases hx
      exact h

theorem andThen_of_error {f : Scan α} {fault : Fault} (h : f s = .error fault) (g : α → Scan β) :
    f.andThen g s = .error fault := by
  rw [andThen, h]

theorem andThen_of_ok {f : Scan α} {a : α} {rest : List UInt8} (h : f s = .ok (a, rest))
    (g : α → Scan β) : f.andThen g s = g a rest := by
  rw [andThen, h]

theorem map_of_ok {scan : Scan α} {a : α} {rest : List UInt8} (h : scan s = .ok (a, rest))
    (f : α → β) : scan.map f s = .ok (f a, rest) := by
  rw [map, h]
  rfl

theorem map_eq_ok {f : α → β} {scan : Scan α} {b : β} {rest : List UInt8} :
    scan.map f s = .ok (b, rest) ↔ ∃ a, scan s = .ok (a, rest) ∧ f a = b := by
  simp only [map]
  cases scan s with
  | error fault => simp [Except.map]
  | ok x =>
    obtain ⟨a, t⟩ := x
    simp only [Except.map, Except.ok.injEq, Prod.mk.injEq]
    constructor
    · rintro ⟨rfl, rfl⟩
      exact ⟨a, ⟨rfl, rfl⟩, rfl⟩
    · rintro ⟨a', ⟨rfl, rfl⟩, rfl⟩
      exact ⟨rfl, rfl⟩

theorem peek_eq_ok {b : UInt8} {rest : List UInt8} :
    peek s = .ok (b, rest) ↔ (skipBlanks s).head? = some b ∧ rest = s := by
  simp only [peek]
  cases skipBlanks s with
  | nil => simp
  | cons c t => simp [eq_comm]

/-- What is taken from `s` is taken as well from any text that goes on in the same way. -/
def FramedAt (scan : Scan α) (s : List UInt8) : Prop :=
  ∀ a rest, scan s = .ok (a, rest) → ∃ taken, s = taken ++ rest ∧
    ∀ other, Follows rest other → scan (taken ++ other) = .ok (a, other)

/-- What is taken from `s` ends with the byte `last`, and is taken as well whatever follows it. -/
def ClosedAt (last : UInt8) (scan : Scan α) (s : List UInt8) : Prop :=
  ∀ a rest, scan s = .ok (a, rest) → ∃ inner, s = inner ++ last :: rest ∧
    ∀ other, scan (inner ++ last :: other) = .ok (a, other)

/-- Nothing is taken from blanks alone. -/
def Visible (scan : Scan α) : Prop := ∀ s a rest, scan s = .ok (a, rest) → skipBlanks s ≠ []

theorem ClosedAt.framedAt {last : UInt8} {scan : Scan α} (h : scan.ClosedAt last s) :
    scan.FramedAt s := by
  intro a rest hs
  obtain ⟨inner, rfl, hall⟩ := h a rest hs
  refine ⟨inner ++ [last], by simp, ?_⟩
  intro other _
  simpa using hall other

theorem framedAt_done (a : α) : (done a).FramedAt s := by
  intro b rest h
  obtain ⟨rfl, rfl⟩ : a = b ∧ s = rest := by simpa [done] using h
  exact ⟨[], rfl, fun _ _ => rfl⟩

theorem yield_eq_ok {r : Except Fault α} {a : α} {rest : List UInt8} :
    yield r s = .ok (a, rest) ↔ r = .ok a ∧ rest = s := by
  cases r <;> simp [yield, Except.map, eq_comm]

theorem framedAt_yield (r : Except Fault α) : (yield r).FramedAt s := by
  intro a rest h
  obtain ⟨hr, rfl⟩ := yield_eq_ok.mp h
  exact ⟨[], rfl, fun _ _ => yield_eq_ok.mpr ⟨hr, rfl⟩⟩

theorem framedAt_fail (fault : Fault) : (fail fault : Scan α).FramedAt s := nofun

theorem closedAt_fail (last : UInt8) (fault : Fault) : (fail fault : Scan α).ClosedAt last s := nofun

theorem visible_fail (fault : Fault) : (fail fault : Scan α).Visible := nofun

theorem FramedAt.andThen {f : Scan α} {g : α → Scan β} (hf : f.FramedAt s)
    (hg : ∀ a rest, f s = .ok (a, rest) → (g a).FramedAt rest) : (f.andThen g).FramedAt s := by
  intro b rest h
  obtain ⟨a, t, hfa, hgb⟩ := andThen_eq_ok.mp h
  obtain ⟨first, rfl, hfirst⟩ := hf a t hfa
  obtain ⟨second, rfl, hsecond⟩ := hg a t hfa b rest hgb
  refine ⟨first ++ second, by simp, ?_⟩
  intro other follows
  rw [List.append_assoc, andThen_eq_ok]
  exact ⟨a, second ++ other, hfirst _ (follows.append second), hsecond other follows⟩

theorem FramedAt.andThenClosed {last : UInt8} {f : Scan α} {g : α → Scan β} (hf : f.FramedAt s)
    (hg : ∀ a rest, f s = .ok (a, rest) → (g a).ClosedAt last rest) :
    (f.andThen g).ClosedAt last s := by
  intro b rest h
  obtain ⟨a, t, hfa, hgb⟩ := andThen_eq_ok.mp h
  obtain ⟨first, rfl, hfirst⟩ := hf a t hfa
  obtain ⟨second, rfl, hsecond⟩ := hg a t hfa b rest hgb
  refine ⟨first ++ second, by simp, ?_⟩
  intro other
  have follows : Follows (second ++ last :: rest) (second ++ last :: other) :=
    (follows_cons last rest other).append second
  rw [List.append_assoc, andThen_eq_ok]
  exact ⟨a, second ++ last :: other, hfirst _ follows, hsecond other⟩

theorem FramedAt.map {scan : Scan α} (h : scan.FramedAt s) (f : α → β) :
    (scan.map f).FramedAt s := by
  intro b rest hb
  obtain ⟨a, ha, rfl⟩ := map_eq_ok.mp hb
  obtain ⟨taken, rfl, hall⟩ := h a rest ha
  exact ⟨taken, rfl, fun other follows => map_of_ok (hall other follows) f⟩

theorem ClosedAt.map {last : UInt8} {scan : Scan α} (h : scan.ClosedAt last s) (f : α → β) :
    (scan.map f).ClosedAt last s := by
  intro b rest hb
  obtain ⟨a, ha, rfl⟩ := map_eq_ok.mp hb
  obtain ⟨inner, rfl, hall⟩ := h a rest ha
  exact ⟨inner, rfl, fun other => map_of_ok (hall other) f⟩

def ReturnsLast (scan : Scan UInt8) : Prop :=
  ∀ s b rest, scan s = .ok (b, rest) → ∃ lead, s = lead ++ b :: rest ∧
    ∀ other, scan (lead ++ b :: other) = .ok (b, other)

theorem byte_eq_ok {b : UInt8} {rest : List UInt8} : byte s = .ok (b, rest) ↔ s = b :: rest := by
  cases s <;> simp [byte]

theorem returnsLast_byte : byte.ReturnsLast := by
  intro s b rest h
  exact ⟨[], byte_eq_ok.mp h, fun _ => rfl⟩

theorem ReturnsLast.after {f : Scan α} {g : Scan UInt8} (hg : g.ReturnsLast)
    (hf : ∀ s, f.FramedAt s) : (f.andThen fun _ => g).ReturnsLast := by
  intro s b rest h
  obtain ⟨a, t, hfa, hgb⟩ := andThen_eq_ok.mp h
  obtain ⟨first, rfl, hfirst⟩ := hf s a t hfa
  obtain ⟨lead, rfl, hlead⟩ := hg t b rest hgb
  refine ⟨first ++ lead, by simp, ?_⟩
  intro other
  have follows : Follows (lead ++ b :: rest) (lead ++ b :: other) :=
    (follows_cons b rest other).append lead
  rw [List.append_assoc, andThen_eq_ok]
  exact ⟨a, lead ++ b :: other, hfirst _ follows, hlead other⟩

theorem ReturnsLast.framedAt {scan : Scan UInt8} (h : scan.ReturnsLast) (s : List UInt8) :
    scan.FramedAt s := by
  intro b rest hb
  have hclosed : scan.ClosedAt b s := by
    intro c rest' hc
    obtain ⟨rfl, rfl⟩ : b = c ∧ rest = rest' := by simpa [hb] using hc
    exact h s b rest hb
  exact hclosed.framedAt b rest hb

/-- A scan that stops at the byte `last` is closed if all ways to go on before it are. -/
theorem ReturnsLast.closedAt_until {f : Scan UInt8} (hf : f.ReturnsLast) {last : UInt8} {a : α}
    {k : UInt8 → Scan α}
    (hk : ∀ b rest, f s = .ok (b, rest) → b ≠ last → (k b).ClosedAt last rest) :
    (f.andThen fun b => if b = last then done a else k b).ClosedAt last s := by
  intro c rest h
  obtain ⟨b, t, hb, hc⟩ := andThen_eq_ok.mp h
  have hclosed := hk b t hb
  obtain ⟨lead, rfl, hlead⟩ := hf s b t hb
  by_cases hlast : b = last
  · subst hlast
    rw [if_pos rfl] at hc
    obtain ⟨rfl, rfl⟩ : a = c ∧ t = rest := by simpa [done] using hc
    refine ⟨lead, rfl, ?_⟩
    intro other
    rw [andThen_eq_ok]
    refine ⟨b, other, hlead other, ?_⟩
    rw [if_pos rfl]
    rfl
  · rw [if_neg hlast] at hc
    obtain ⟨inner, rfl, hinner⟩ := hclosed hlast c rest hc
    refine ⟨lead ++ b :: inner, by simp, ?_⟩
    intro other
    rw [List.append_assoc, List.cons_append, andThen_eq_ok]
    refine ⟨b, inner ++ last :: other, hlead _, ?_⟩
    rw [if_neg hlast]
    exact hinner other

def blanks : Scan Unit := fun s => .ok ((), skipBlanks s)

theorem skipBlanks_of_stop (h : ∀ b ∈ s.head?, Byte.isBlank b = false) : skipBlanks s = s := by
  cases s with
  | nil => rfl
  | cons b s => simp [skipBlanks, h b rfl]

theorem framedAt_blanks (s : List UInt8) : blanks.FramedAt s := by
  intro u rest h
  have hrest : s.dropWhile Byte.isBlank = rest := congrArg Prod.snd (Except.ok.inj h)
  have hblank : ∀ b ∈ s.takeWhile Byte.isBlank, Byte.isBlank b = true :=
    List.all_eq_true.mp List.all_takeWhile
  have hstop : ∀ b ∈ rest.head?, Byte.isBlank b = false := by
    intro b hb
    have hvisible := List.head?_dropWhile_not Byte.isBlank s
    rw [hrest, Option.mem_def.mp hb] at hvisible
    simpa using hvisible
  refine ⟨s.takeWhile Byte.isBlank, ?_, ?_⟩
  · rw [← hrest, List.takeWhile_append_dropWhile]
  · intro other follows
    rw [blanks, skipBlanks, List.dropWhile_append_of_pos hblank, ← skipBlanks,
      skipBlanks_of_stop (follows.stops hstop)]

theorem Visible.andThen {f : Scan α} (hf : f.Visible) (g : α → Scan β) : (f.andThen g).Visible := by
  intro s b rest h
  obtain ⟨a, t, hfa, -⟩ := andThen_eq_ok.mp h
  exact hf s a t hfa

theorem Visible.map {scan : Scan α} (h : scan.Visible) (f : α → β) : (scan.map f).Visible := by
  intro s b rest hb
  obtain ⟨a, ha, -⟩ := map_eq_ok.mp hb
  exact h s a rest ha

theorem visible_peek : peek.Visible := by
  intro s b rest h hblank
  simp [peek, hblank] at h

theorem head_skipBlanks_append {front : List UInt8} (h : skipBlanks front ≠ [])
    (rest other : List UInt8) :
    (skipBlanks (front ++ other)).head? = (skipBlanks (front ++ rest)).head? := by
  simp only [skipBlanks] at h ⊢
  obtain ⟨b, t, hfront⟩ := List.exists_cons_of_ne_nil h
  simp [List.dropWhile_append, hfront]

section Peek
variable {k : UInt8 → Scan α} (visible : ∀ b, (k b).Visible)
include visible

/-- What is taken after a look at the first byte holds that byte, so the look finds it again. -/
theorem framedAt_peek
    (hk : ∀ b, (skipBlanks s).head? = some b → (k b).FramedAt s) : (peek.andThen k).FramedAt s := by
  intro a rest h
  obtain ⟨b, t, hp, ha⟩ := andThen_eq_ok.mp h
  obtain ⟨hb, rfl⟩ := peek_eq_ok.mp hp
  obtain ⟨taken, rfl, hall⟩ := hk b hb a rest ha
  have hseen := visible b _ _ _ (hall [] (.inl rfl))
  rw [List.append_nil] at hseen
  refine ⟨taken, rfl, ?_⟩
  intro other follows
  have hb' := head_skipBlanks_append hseen rest other
  exact andThen_eq_ok.mpr ⟨b, _, peek_eq_ok.mpr ⟨hb'.trans hb, rfl⟩, hall other follows⟩

theorem closedAt_peek {last : UInt8}
    (hk : ∀ b, (skipBlanks s).head? = some b → (k b).ClosedAt last s) :
    (peek.andThen k).ClosedAt last s := by
  intro a rest h
  obtain ⟨b, t, hp, ha⟩ := andThen_eq_ok.mp h
  obtain ⟨hb, rfl⟩ := peek_eq_ok.mp hp
  obtain ⟨inner, rfl, hall⟩ := hk b hb a rest ha
  have hseen := visible b _ _ _ (hall [])
  refine ⟨inner, rfl, ?_⟩
  intro other
  have hb' := head_skipBlanks_append hseen rest other
  rw [List.append_assoc, List.append_assoc] at hb'
  exact andThen_eq_ok.mpr ⟨b, _, peek_eq_ok.mpr ⟨hb'.trans hb, rfl⟩, hall other⟩

end Peek
end Scan
end MessageInspector.Json
