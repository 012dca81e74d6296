import MessageInspector.Proofs.Content.Enumeration
import MessageInspector.Proofs.Rewriting
import MessageInspector.Proofs.Text.Decimals
/-!
# The order a script sees

Enumerating an object is determined by what a script sees of it: the members whose keys write an array
index, by index, and then all others as they stand. Only the decimal form of a number below the bound
writes an index, without a sign and without a zero in front.
-/
namespace MessageInspector.Content
variable {α : Type} {key : String} {n : Nat} {members order : List (String × α)}

structure IndexText (key : String) (n : Nat) : Prop where
  digits : Decimal.DigitsText key.toList n
  lead : ∀ rest, key.toList = '0' :: rest → rest = []
  bound : n < 2 ^ 32 - 1

def Ordinary (key : String) : Prop := ∀ n, ¬ IndexText key n

/-- All members, first those whose keys are array indices, in strictly ascending order, and then the
others in the order of the object. -/
structure ScriptOrder (members order : List (String × α)) : Prop where
  complete : order.Perm members
  split : ∃ indexed named, order = indexed ++ named ∧
    (∀ m ∈ indexed, ∃ n, IndexText m.1 n) ∧
    indexed.Pairwise (fun a b => ∃ i j, IndexText a.1 i ∧ IndexText b.1 j ∧ i < j) ∧
    (∀ m ∈ named, Ordinary m.1) ∧ named.Sublist members

/-! ## Keys -/

theorem IndexText.toList_eq (h : IndexText key n) : key.toList = Nat.toDigits 10 n :=
  h.digits.eq_toDigits h.lead

theorem indexText_toString (h : n < indexBound) : IndexText (toString n) n := by
  have htext : (toString n).toList = Nat.toDigits 10 n := by simp
  refine ⟨?_, ?_, h⟩
  · rw [htext]
    exact Decimal.digitsText_toDigits n
  · intro rest hrest
    rw [htext] at hrest
    exact Decimal.lead_toDigits hrest

theorem arrayIndex?_eq_some : arrayIndex? key = some n ↔ IndexText key n := by
  constructor
  · intro h
    have hkey := eq_toString_of_arrayIndex h
    have hbound : n < indexBound := by
      rw [arrayIndex?] at h
      split at h
      · split at h
        · rename_i hindex
          cases h
          exact hindex.1
        · cases h
      · cases h
    exact hkey ▸ indexText_toString hbound
  · intro h
    have hnatural := Decimal.natural?_eq_some.mpr h.digits
    have hkey : toString n = key := by
      apply String.toList_injective
      simp [h.toList_eq]
    have hbound : n < indexBound := h.bound
    simp [arrayIndex?, hnatural, hkey, hbound]

theorem isIndexKey_iff : isIndexKey key = true ↔ ∃ n, IndexText key n := by
  simp only [isIndexKey, Option.isSome_iff_exists, arrayIndex?_eq_some]

theorem isIndexKey_eq_false_iff : isIndexKey key = false ↔ Ordinary key := by
  rw [← Bool.not_eq_true, isIndexKey_iff, not_exists]
  rfl

theorem ordinary_of_long (h : 10 < key.length) : Ordinary key := by
  intro n hn
  have hlength : (Nat.toDigits 10 n).length ≤ 10 := by
    refine (Nat.length_toDigits_le_iff (by decide) (by decide)).mpr ?_
    exact Nat.lt_trans hn.bound (by decide)
  rw [← hn.toList_eq, String.length_toList] at hlength
  omega

theorem ordinary_of_large (h : Decimal.DigitsText key.toList n) (large : 2 ^ 32 ≤ n) :
    Ordinary key := by
  intro m hm
  have hvalue : m = n := hm.digits.value.symm.trans h.value
  have hbound := hm.bound
  omega

/-! ## Orders -/

theorem indexBefore_iff {a b : String × α} :
    IndexBefore a b ↔ ∃ i j, IndexText a.1 i ∧ IndexText b.1 j ∧ i < j := by
  simp only [IndexBefore, arrayIndex?_eq_some]

theorem Enumerates.scriptOrder (h : Enumerates members order) (complete : order.Perm members) :
    ScriptOrder members order := by
  refine ⟨complete, ?_⟩
  cases h with
  | @split indexed hperm hascending =>
    refine ⟨indexed, _, rfl, ?_, ?_, ?_, List.filter_sublist⟩
    · intro m hm
      have hindex := (List.mem_filter.mp (hperm.mem_iff.mp hm)).2
      exact isIndexKey_iff.mp hindex
    · exact hascending.imp indexBefore_iff.mp
    · intro m hm
      have hnamed := (List.mem_filter.mp hm).2
      exact isIndexKey_eq_false_iff.mp (by simpa using hnamed)

theorem scriptOrder_enumerationOrder (h : (members.map Prod.fst).Nodup) :
    ScriptOrder members (enumerationOrder members) :=
  (enumerates_enumerationOrder h).scriptOrder (enumerationOrder_perm members)

theorem filter_ordinary {named : List (String × α)} (h : ∀ m ∈ named, Ordinary m.1) :
    named.filter (fun m => !isIndexKey m.1) = named := by
  simp only [List.filter_eq_self, Bool.not_eq_true']
  exact fun m hm => isIndexKey_eq_false_iff.mpr (h m hm)

section Split
variable {indexed named : List (String × α)} (hindexed : ∀ m ∈ indexed, ∃ n, IndexText m.1 n)
  (hnamed : ∀ m ∈ named, Ordinary m.1)
include hindexed hnamed

theorem filter_indexed : (indexed ++ named).filter (fun m => isIndexKey m.1) = indexed := by
  have hfirst : indexed.filter (fun m => isIndexKey m.1) = indexed :=
    List.filter_eq_self.mpr fun m hm => isIndexKey_iff.mpr (hindexed m hm)
  have hrest : named.filter (fun m => isIndexKey m.1) = [] := by
    simp only [List.filter_eq_nil_iff, Bool.not_eq_true]
    exact fun m hm => isIndexKey_eq_false_iff.mpr (hnamed m hm)
  rw [List.filter_append, hfirst, hrest, List.append_nil]

theorem filter_named : (indexed ++ named).filter (fun m => !isIndexKey m.1) = named := by
  have hfirst : indexed.filter (fun m => !isIndexKey m.1) = [] := by
    simp only [List.filter_eq_nil_iff, Bool.not_eq_true, Bool.not_eq_false']
    exact fun m hm => isIndexKey_iff.mpr (hindexed m hm)
  rw [List.filter_append, hfirst, filter_ordinary hnamed, List.nil_append]

theorem named_eq_filter (complete : (indexed ++ named).Perm members)
    (hsub : named.Sublist members) : named = members.filter fun m => !isIndexKey m.1 := by
  have hpart := complete.filter fun m => !isIndexKey m.1
  rw [filter_named hindexed hnamed] at hpart
  have hwithin := hsub.filter fun m => !isIndexKey m.1
  rw [filter_ordinary hnamed] at hwithin
  exact hwithin.eq_of_length hpart.length_eq

end Split

/-- The indices order the members that have one, and the object orders the others. -/
theorem ScriptOrder.unique {order' : List (String × α)} (h : ScriptOrder members order)
    (h' : ScriptOrder members order') : order = order' := by
  rcases h.split with ⟨indexed, named, rfl, hindexed, hascending, hnamed, hsub⟩
  rcases h'.split with ⟨indexed', named', rfl, hindexed', hascending', hnamed', hsub'⟩
  have hfirst : indexed = indexed' := by
    have hsame := (h.complete.trans h'.complete.symm).filter fun m => isIndexKey m.1
    rw [filter_indexed hindexed hnamed, filter_indexed hindexed' hnamed'] at hsame
    refine hsame.eq_of_pairwise ?_ hascending hascending'
    rintro a b - - ⟨i, j, hi, hj, hij⟩ ⟨j', i', hj', hi', hji⟩
    have hequal : i = i' := hi.digits.value.symm.trans hi'.digits.value
    have hequal' : j = j' := hj.digits.value.symm.trans hj'.digits.value
    omega
  have hrest : named = named' :=
    (named_eq_filter hindexed hnamed h.complete hsub).trans
      (named_eq_filter hindexed' hnamed' h'.complete hsub').symm
  rw [hfirst, hrest]

theorem ScriptOrder.self (h : ScriptOrder members order) : ScriptOrder order order := by
  rcases h.split with ⟨indexed, named, rfl, hindexed, hascending, hnamed, -⟩
  exact ⟨.refl _, indexed, named, rfl, hindexed, hascending, hnamed, List.sublist_append_right _ _⟩

theorem nodup_enumerationOrder (h : (members.map Prod.fst).Nodup) :
    ((enumerationOrder members).map Prod.fst).Nodup :=
  ((enumerationOrder_perm members).map Prod.fst).nodup_iff.mpr h

theorem enumerationOrder_again (h : (members.map Prod.fst).Nodup) :
    enumerationOrder (OrderedMap.ofList (enumerationOrder members)).entries =
      enumerationOrder members := by
  have hkeys := nodup_enumerationOrder h
  rw [OrderedMap.entries_ofList hkeys]
  exact (scriptOrder_enumerationOrder hkeys).unique (scriptOrder_enumerationOrder h).self

theorem ordinary_of_mem : ∀ key ∈ ["4294967295", "010", "+3", "-1", ""], Ordinary key := by
  have hkeys : ∀ key ∈ ["4294967295", "010", "+3", "-1", ""], isIndexKey key = false := by
    decide +kernel
  exact fun key hkey => isIndexKey_eq_false_iff.mp (hkeys key hkey)

/-- Enumeration is the one order in which a script may see the members of an object, and a key has
an index exactly if it is the decimal form of one. -/
theorem enumerationOrder_determined (object : OrderedMap α) :
    (∀ key n, arrayIndex? key = some n ↔ IndexText key n) ∧
      (∀ order, ScriptOrder object.entries order ↔ order = enumerationOrder object.entries) ∧
      enumerationOrder (OrderedMap.ofList (enumerationOrder object.entries)).entries =
        enumerationOrder object.entries ∧
      (∀ key ∈ ["4294967295", "010", "+3", "-1", ""], Ordinary key) ∧
      ∀ key n, Decimal.DigitsText key.toList n → 2 ^ 32 ≤ n ∨ 10 < key.length → Ordinary key := by
  refine ⟨fun _ _ => arrayIndex?_eq_some, ?_, enumerationOrder_again object.nodup, ordinary_of_mem,
    ?_⟩
  · intro order
    have horder := scriptOrder_enumerationOrder object.nodup
    constructor
    · exact fun h => h.unique horder
    · rintro rfl
      exact horder
  · intro key n hdigits hlong
    rcases hlong with large | long
    · exact ordinary_of_large hdigits large
    · exact ordinary_of_long long

theorem enumerationOrder_determined_of_mixed :
    let object : OrderedMap Bool := .ofList [("b", true), ("10", true), ("010", false),
      ("4294967294", true), ("4294967295", false), ("", true), ("2", false), ("10", false)]
    let order := [("2", false), ("10", false), ("4294967294", true), ("b", true), ("010", false),
      ("4294967295", false), ("", true)]
    IndexText "4294967294" 4294967294 ∧ ScriptOrder object.entries order ∧
      enumerationOrder (OrderedMap.ofList order).entries = order ∧
      (Ordinary "4294967295" ∧ Ordinary "") ∧
      Decimal.DigitsText "4294967296".toList 4294967296 ∧ Ordinary "4294967296" := by
  intro object order
  obtain ⟨hindex, horder, hagain, hkeys, hlong⟩ := enumerationOrder_determined object
  have htwo : IndexText "2" 2 := (hindex _ _).mp (by decide +kernel)
  have hten : IndexText "10" 10 := (hindex _ _).mp (by decide +kernel)
  have hlast : IndexText "4294967294" 4294967294 := (hindex _ _).mp (by decide +kernel)
  have hscript : ScriptOrder object.entries order := by
    refine ⟨by decide +kernel, order.take 3, order.drop 3, rfl, ?_, ?_, ?_, by decide +kernel⟩
    · simp only [order, List.take_succ_cons, List.take_zero, List.forall_mem_cons]
      exact ⟨⟨2, htwo⟩, ⟨10, hten⟩, ⟨_, hlast⟩, nofun⟩
    · simp only [order, List.take_succ_cons, List.take_zero, List.pairwise_cons,
        List.forall_mem_cons]
      exact ⟨⟨⟨2, 10, htwo, hten, by decide⟩, ⟨2, _, htwo, hlast, by decide⟩, nofun⟩,
        ⟨⟨10, _, hten, hlast, by decide⟩, nofun⟩, nofun, .nil⟩
    · intro m hm
      have hnamed : ∀ m ∈ order.drop 3, isIndexKey m.1 = false := by decide +kernel
      exact isIndexKey_eq_false_iff.mp (hnamed m hm)
  have hdigits : Decimal.DigitsText "4294967296".toList 4294967296 :=
    Decimal.natural?_eq_some.mp (by decide +kernel)
  rw [← (horder order).mp hscript] at hagain
  exact ⟨hlast, hscript, hagain, ⟨hkeys _ (by decide), hkeys _ (by decide)⟩, hdigits,
    hlong _ _ hdigits (.inl (by decide))⟩

end MessageInspector.Content
