import Mathlib.Data.List.Induction
/-!
# Histories of runs

A run takes one step after another. Its history keeps, for each step, the state in which it was
taken and the action, so that what happened on the way can be read off once the run has ended.
-/
namespace MessageInspector

/-- One step of a run: the state in which it was taken, and the action. -/
structure Moment (σ α : Type) where
  before : σ
  action : α

variable {σ α β : Type}

theorem filterMap_concat (f : α → Option β) (xs : List α) (x : α) :
    (xs ++ [x]).filterMap f = xs.filterMap f ++ (f x).toList := by
  rw [List.filterMap_append]
  cases h : f x <;> simp [h]

theorem getElem?_concat_eq_some {xs : List α} {x y : α} {i : Nat} :
    (xs ++ [x])[i]? = some y ↔ xs[i]? = some y ∨ i = xs.length ∧ x = y := by
  rcases Nat.lt_trichotomy i xs.length with h | h | h
  · have hi : i ≠ xs.length := by omega
    simp [List.getElem?_append_left h, hi]
  · subst h
    simp
  · have hi : i ≠ xs.length := by omega
    rw [List.getElem?_eq_none (by simp only [List.length_append, List.length_singleton]; omega),
      List.getElem?_eq_none (by omega)]
    simp [hi]

def history (next : σ → α → σ) (s : σ) : List α → List (Moment σ α)
  | [] => []
  | action :: rest => ⟨s, action⟩ :: history next (next s action) rest

theorem history_append (next : σ → α → σ) (s : σ) (earlier later : List α) :
    history next s (earlier ++ later) =
      history next s earlier ++ history next (earlier.foldl next s) later := by
  induction earlier generalizing s with
  | nil => rfl
  | cons action rest ih => simp only [List.cons_append, history, ih, List.foldl_cons]

theorem mem_history (next : σ → α → σ) (s : σ) (actions : List α) (m : Moment σ α) :
    m ∈ history next s actions ↔
      ∃ earlier later, actions = earlier ++ m.action :: later ∧
        m.before = earlier.foldl next s := by
  induction actions generalizing s with
  | nil => simp [history]
  | cons action rest ih =>
    simp only [history, List.mem_cons, ih]
    constructor
    · rintro (rfl | ⟨earlier, later, rfl, hm⟩)
      · exact ⟨[], rest, rfl, rfl⟩
      · exact ⟨action :: earlier, later, rfl, hm⟩
    · rintro ⟨earlier, later, heq, hm⟩
      cases earlier with
      | nil =>
        obtain ⟨rfl, rfl⟩ := List.cons.inj heq
        exact Or.inl (by cases m; simp_all)
      | cons first earlier =>
        obtain ⟨rfl, rfl⟩ := List.cons.inj heq
        exact Or.inr ⟨earlier, later, rfl, hm⟩

/-- The run leads to where its steps lead, one after another. -/
structure Runs (next : σ → α → σ) (run : σ → List α → σ × β) : Prop where
  nil : ∀ s, (run s []).1 = s
  cons : ∀ s action rest, (run s (action :: rest)).1 = (run (next s action) rest).1

namespace Runs
variable {next : σ → α → σ} {run : σ → List α → σ × β} (h : Runs next run) (s : σ)
include h

theorem fst_eq (actions : List α) : (run s actions).1 = actions.foldl next s := by
  induction actions generalizing s with
  | nil => exact h.nil s
  | cons action rest ih => rw [h.cons, ih, List.foldl_cons]

theorem fst_concat (actions : List α) (action : α) :
    (run s (actions ++ [action])).1 = next (run s actions).1 action := by
  rw [h.fst_eq, h.fst_eq, List.foldl_append, List.foldl_cons, List.foldl_nil]

theorem history_append (earlier later : List α) :
    history next s (earlier ++ later) =
      history next s earlier ++ history next (run s earlier).1 later := by
  rw [h.fst_eq, MessageInspector.history_append]

theorem history_concat (actions : List α) (action : α) :
    history next s (actions ++ [action]) =
      history next s actions ++ [⟨(run s actions).1, action⟩] :=
  h.history_append s actions [action]

/-- A step was taken in a run if some first part of the run leads to where it was taken. -/
theorem mem_history (actions : List α) (m : Moment σ α) :
    m ∈ history next s actions ↔
      ∃ earlier later, actions = earlier ++ m.action :: later ∧ m.before = (run s earlier).1 := by
  simp only [h.fst_eq, MessageInspector.mem_history]

end Runs

end MessageInspector
