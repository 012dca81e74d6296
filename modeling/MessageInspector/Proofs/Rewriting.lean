import Mathlib.Data.List.Induction
import MessageInspector.OrderedMap
/-!
# Entries written one after another

What a map holds after entries were written into it: each key once, where it was written first, with
the value that was written last.
-/
namespace MessageInspector.OrderedMap
variable {α : Type}

def lastValue? (entries : List (String × α)) (key : String) : Option α :=
  entries.reverse.lookup key

theorem lookup_cons (entry : String × α) (entries : List (String × α)) (key : String) :
    (entry :: entries).lookup key = if key = entry.1 then some entry.2 else entries.lookup key := by
  obtain ⟨first, value⟩ := entry
  rw [List.lookup_cons]
  by_cases h : key = first
  · rw [if_pos h, beq_iff_eq.mpr h]
  · rw [if_neg h, beq_eq_false_iff_ne.mpr h]

theorem lookup_of_mem {entries : List (String × α)} {key : String} {value : α}
    (h : (entries.map Prod.fst).Nodup) (hmem : (key, value) ∈ entries) :
    entries.lookup key = some value := by
  induction entries with
  | nil => cases hmem
  | cons entry entries ih =>
    rw [List.map_cons, List.nodup_cons] at h
    rw [lookup_cons]
    rcases List.mem_cons.mp hmem with rfl | hrest
    · exact if_pos rfl
    · have hkey : key ∈ entries.map Prod.fst := List.mem_map_of_mem hrest
      rw [if_neg (fun heq : key = entry.1 => h.1 (heq ▸ hkey))]
      exact ih h.2 hrest

theorem lastValue?_concat (entries : List (String × α)) (entry : String × α) (key : String) :
    lastValue? (entries ++ [entry]) key =
      if key = entry.1 then some entry.2 else lastValue? entries key := by
  rw [lastValue?, List.reverse_concat, lookup_cons]
  rfl

theorem put_of_notMem {key : String} {value : α} {entries : List (String × α)}
    (h : key ∉ entries.map Prod.fst) : put key value entries = entries ++ [(key, value)] := by
  induction entries with
  | nil => rfl
  | cons entry entries ih =>
    rw [List.map_cons, List.mem_cons, not_or] at h
    rw [put, if_neg (Ne.symm h.1), ih h.2, List.cons_append]

theorem lookup_put (key : String) (value : α) (entries : List (String × α)) (other : String) :
    (put key value entries).lookup other =
      if other = key then some value else entries.lookup other := by
  induction entries with
  | nil => rw [put, lookup_cons]
  | cons entry entries ih =>
    rw [put]
    by_cases hkey : entry.1 = key
    · rw [if_pos hkey, lookup_cons, lookup_cons, hkey]
      split <;> rfl
    · rw [if_neg hkey, lookup_cons, lookup_cons, ih]
      by_cases h : other = entry.1
      · have hother : ¬ other = key := fun heq => hkey (h.symm.trans heq)
        rw [if_pos h, if_neg hother, if_pos h]
      · rw [if_neg h, if_neg h]

theorem ofList_concat (entries : List (String × α)) (entry : String × α) :
    ofList (entries ++ [entry]) = (ofList entries).insert entry.1 entry.2 := by
  rw [ofList, List.foldl_append]
  rfl

theorem get?_ofList (entries : List (String × α)) (key : String) :
    (ofList entries).get? key = lastValue? entries key := by
  induction entries using List.reverseRecOn with
  | nil => rfl
  | append_singleton entries entry ih =>
    rw [ofList_concat, lastValue?_concat, ← ih]
    exact lookup_put _ _ _ _

theorem keys_ofList (entries : List (String × α)) :
    (ofList entries).keys = (entries.map Prod.fst).eraseDups := by
  induction entries using List.reverseRecOn with
  | nil => rfl
  | append_singleton entries entry ih =>
    have hkeys : (ofList (entries ++ [entry])).keys =
        (put entry.1 entry.2 (ofList entries).entries).map Prod.fst := by
      rw [ofList_concat]
      rfl
    have hmem : entry.1 ∈ (ofList entries).entries.map Prod.fst ↔ entry.1 ∈ entries.map Prod.fst := by
      rw [← List.mem_eraseDups (l := entries.map Prod.fst), ← ih, keys]
    rw [hkeys, keys_put, List.map_append, List.eraseDups_append, ← ih, List.map_singleton, keys]
    by_cases h : entry.1 ∈ entries.map Prod.fst
    · rw [if_pos (hmem.mpr h)]
      simp [List.removeAll, h]
    · rw [if_neg (mt hmem.mp h)]
      simp [List.removeAll, h, List.eraseDups_cons]

theorem entries_ofList {entries : List (String × α)} (h : (entries.map Prod.fst).Nodup) :
    (ofList entries).entries = entries := by
  induction entries using List.reverseRecOn with
  | nil => rfl
  | append_singleton entries entry ih =>
    rw [List.map_append, List.nodup_append] at h
    have hnew : entry.1 ∉ entries.map Prod.fst := fun hmem => h.2.2 _ hmem _ (by simp) rfl
    have hentries := ih h.1
    rw [← hentries] at hnew
    rw [ofList_concat]
    exact (put_of_notMem hnew).trans (by rw [hentries])

theorem ofList_entries (m : OrderedMap α) : ofList m.entries = m := by
  have hentries := entries_ofList m.nodup
  cases hlist : ofList m.entries
  rw [hlist] at hentries
  cases m
  simp_all

end MessageInspector.OrderedMap
