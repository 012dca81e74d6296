import Mathlib.Data.List.Perm.Basic
import MessageInspector.Content.EnumerationOrder
/-!
# The order of enumeration

Enumerating an object neither loses a member nor adds one. Members whose keys are array indices come
first, by index, and all others stay as they stand.
-/
namespace MessageInspector.Content
variable {α : Type}

theorem enumerationOrder_perm (members : List (String × α)) :
    (enumerationOrder members).Perm members := by
  have hsorted := List.mergeSort_perm (members.filter fun m => isIndexKey m.1) indexLe
  exact (hsorted.append_right _).trans (List.filter_append_perm _ _)

def IndexBefore (a b : String × α) : Prop :=
  ∃ i j, arrayIndex? a.1 = some i ∧ arrayIndex? b.1 = some j ∧ i < j

/-- The members in the order in which a script sees them. -/
inductive Enumerates (members : List (String × α)) : List (String × α) → Prop
  | split {indexed} : indexed.Perm (members.filter fun m => isIndexKey m.1) →
      indexed.Pairwise IndexBefore →
      Enumerates members (indexed ++ members.filter fun m => !isIndexKey m.1)

theorem eq_toString_of_arrayIndex {key : String} {n : Nat} (h : arrayIndex? key = some n) :
    toString n = key := by
  rw [arrayIndex?] at h
  split at h
  · split at h
    · rename_i hcanonical
      cases h
      exact hcanonical.2
    · cases h
  · cases h

theorem arrayIndex_of_isIndexKey {key : String} (h : isIndexKey key = true) :
    ∃ n, arrayIndex? key = some n :=
  Option.isSome_iff_exists.mp h

theorem indexBefore_of_le {a b : String × α} (ha : isIndexKey a.1 = true)
    (hb : isIndexKey b.1 = true) (hle : indexLe a b = true) (hne : a.1 ≠ b.1) :
    IndexBefore a b := by
  obtain ⟨i, hi⟩ := arrayIndex_of_isIndexKey ha
  obtain ⟨j, hj⟩ := arrayIndex_of_isIndexKey hb
  simp only [indexLe, hi, hj, Option.getD_some, decide_eq_true_eq] at hle
  refine ⟨i, j, hi, hj, Nat.lt_of_le_of_ne hle ?_⟩
  rintro rfl
  exact hne ((eq_toString_of_arrayIndex hi).symm.trans (eq_toString_of_arrayIndex hj))

theorem pairwise_indexLe (members : List (String × α)) :
    (members.mergeSort indexLe).Pairwise fun a b => indexLe a b = true := by
  apply List.pairwise_mergeSort
  · intro a b c hab hbc
    simp only [indexLe, decide_eq_true_eq] at hab hbc ⊢
    exact Nat.le_trans hab hbc
  · intro a b
    simp only [indexLe, Bool.or_eq_true, decide_eq_true_eq]
    exact Nat.le_total _ _

theorem enumerates_enumerationOrder {members : List (String × α)}
    (hkeys : (members.map Prod.fst).Nodup) : Enumerates members (enumerationOrder members) := by
  have hperm := List.mergeSort_perm (members.filter fun m => isIndexKey m.1) indexLe
  have hindex : ∀ m ∈ (members.filter fun m => isIndexKey m.1).mergeSort indexLe,
      isIndexKey m.1 = true :=
    fun m hm => (List.mem_filter.mp (hperm.mem_iff.mp hm)).2
  have hdistinct : ((members.filter fun m => isIndexKey m.1).mergeSort indexLe).Pairwise
      fun a b => a.1 ≠ b.1 := by
    have hmapped : ((members.filter fun m => isIndexKey m.1).map Prod.fst).Nodup :=
      hkeys.sublist (List.filter_sublist.map _)
    exact List.pairwise_map.mp ((hperm.map Prod.fst).nodup_iff.mpr hmapped)
  refine .split hperm ?_
  apply ((pairwise_indexLe _).and hdistinct).imp_of_mem
  rintro a b ha hb ⟨hle, hne⟩
  exact indexBefore_of_le (hindex a ha) (hindex b hb) hle hne

end MessageInspector.Content
