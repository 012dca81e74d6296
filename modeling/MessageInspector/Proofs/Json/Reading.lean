import MessageInspector.Proofs.Json.Documents
/-!
# Texts that a reader takes

A reader takes a text if it takes all of it and nothing of what follows. Blanks belong to the token
after them. A number has no closing byte, so what follows a value must not go on as a number does.
For each loop between brackets there is the form of its texts, given that of an item or a member.
-/
namespace MessageInspector.Json
open Scan
variable {α β κ σ : Type}

def Blank (text : List UInt8) : Prop := ∀ b ∈ text, Byte.isBlank b = true

def Byte.Ends (b : UInt8) : Prop :=
  Byte.isDigit b = false ∧ b ≠ Byte.point ∧ isExponentMark b = false

instance (b : UInt8) : Decidable (Byte.Ends b) := inferInstanceAs (Decidable (_ ∧ _))

def Stops (rest : List UInt8) : Prop := ∀ b ∈ rest.head?, Byte.Ends b

/-- The scan takes all of the text and nothing of what follows. -/
def Scan.Takes (scan : Scan α) (text : List UInt8) (a : α) : Prop :=
  ∀ rest, Stops rest → scan (text ++ rest) = .ok (a, rest)

theorem byte_andThen (k : UInt8 → Scan α) (b : UInt8) (rest : List UInt8) :
    byte.andThen k (b :: rest) = k b rest := rfl

theorem blank_nil : Blank [] := nofun

theorem Byte.isBlank_cases {b : UInt8} (h : Byte.isBlank b = true) :
    b = 0x20 ∨ b = 0x09 ∨ b = 0x0A ∨ b = 0x0D := by
  simpa [Byte.isBlank, or_assoc] using h

theorem Byte.ends_of_blank {b : UInt8} (h : Byte.isBlank b = true) : Byte.Ends b := by
  obtain rfl | rfl | rfl | rfl := Byte.isBlank_cases h <;> decide

theorem stops_append_cons {blanks : List UInt8} (hblanks : Blank blanks) {b : UInt8}
    (hb : Byte.Ends b) (rest : List UInt8) : Stops (blanks ++ b :: rest) := by
  intro c hc
  cases blanks with
  | nil =>
    obtain rfl : b = c := by simpa using hc
    exact hb
  | cons d blanks =>
    obtain rfl : d = c := by simpa using hc
    exact Byte.ends_of_blank (hblanks d List.mem_cons_self)

/-- What stands between a key and its value does not go on as a number does. -/
theorem stops_colon {after : List UInt8} (hafter : Blank after) (text rest : List UInt8) :
    Stops (after ++ Byte.colon :: text ++ rest) := by
  rw [List.append_assoc, List.cons_append]
  exact stops_append_cons hafter (by decide) _

theorem skipBlanks_append_cons {blanks : List UInt8} (hblanks : Blank blanks) {b : UInt8}
    (hb : Byte.isBlank b = false) (rest : List UInt8) :
    skipBlanks (blanks ++ b :: rest) = b :: rest := by
  rw [skipBlanks, List.dropWhile_append_of_pos hblanks]
  simp [hb]

section Tokens
variable {before : List UInt8} (hbefore : Blank before) {b : UInt8}
  (hb : Byte.isBlank b = false) (rest : List UInt8)
include hbefore hb

theorem next_append : Reader.scan next (before ++ b :: rest) = .ok (b, rest) :=
  scan_next_eq_ok.mpr (skipBlanks_append_cons hbefore hb rest)

theorem peek_append : peek (before ++ b :: rest) = .ok (b, before ++ b :: rest) :=
  peek_eq_ok.mpr ⟨by rw [skipBlanks_append_cons hbefore hb]; rfl, rfl⟩

theorem mark_append : Reader.scan (mark b) (before ++ b :: rest) = .ok ((), rest) := by
  rw [scan_mark, andThen_of_ok (next_append hbefore hb rest), if_pos rfl]
  rfl

end Tokens

theorem Scan.Takes.map {scan : Scan α} {text : List UInt8} {a : α} (h : scan.Takes text a)
    (f : α → β) : (scan.map f).Takes text (f a) :=
  fun rest stops => map_of_ok (h rest stops) f

theorem Reader.takes_map {reader : Reader α} {text : List UInt8} {a : α}
    (h : reader.scan.Takes text a) (f : α → β) : (reader.map f).scan.Takes text (f a) := by
  rw [Reader.scan_map]
  exact h.map f

theorem document_of_takes {reader : Reader α} {text after : List UInt8} {a : α}
    (h : reader.scan.Takes text a) (hafter : Blank after) :
    document reader (text ++ after) = .ok a := by
  have stops : Stops after := by
    intro b hb
    exact Byte.ends_of_blank (hafter b (List.mem_of_mem_head? hb))
  exact document_eq_ok.mpr ⟨after, h after stops, skipBlanks_eq_nil.mpr hafter⟩

theorem takes_afterColon {reader : Reader α} {before text : List UInt8} {a : α}
    (hbefore : Blank before) (h : reader.scan.Takes text a) :
    (afterColon reader).scan.Takes (before ++ Byte.colon :: text) a := by
  intro rest stops
  have hcolon := mark_append hbefore (b := Byte.colon) (by decide) (text ++ rest)
  rw [List.append_assoc, List.cons_append, scan_afterColon, andThen_of_ok hcolon]
  exact h rest stops

/-- Something is taken only where `b` is not the first byte after blanks. -/
def Scan.Avoids (scan : Scan α) (b : UInt8) : Prop :=
  ∀ s a rest, scan s = .ok (a, rest) → ∃ c, peek s = .ok (c, s) ∧ c ≠ b

theorem avoids_peek {b : UInt8} {k : UInt8 → Scan α} (h : ∀ s a rest, k b s ≠ .ok (a, rest)) :
    (peek.andThen k).Avoids b := by
  intro s a rest hs
  obtain ⟨c, t, hc, hk⟩ := andThen_eq_ok.mp hs
  obtain ⟨hhead, rfl⟩ := peek_eq_ok.mp hc
  refine ⟨c, hc, ?_⟩
  rintro rfl
  exact h _ _ _ hk

/-! ## Arrays -/

inductive ItemsAfterText (item : List UInt8 → α → Prop) : List UInt8 → List α → Prop
  | close {before} : Blank before → ItemsAfterText item (before ++ [Byte.closeBracket]) []
  | next {before text rest a as} : Blank before → item text a → ItemsAfterText item rest as →
      ItemsAfterText item (before ++ Byte.comma :: (text ++ rest)) (a :: as)

inductive ItemsText (item : List UInt8 → α → Prop) : List UInt8 → List α → Prop
  | none {before} : Blank before → ItemsText item (before ++ [Byte.closeBracket]) []
  | some {text rest a as} : item text a → ItemsAfterText item rest as →
      ItemsText item (text ++ rest) (a :: as)

theorem ItemsAfterText.stops {item : List UInt8 → α → Prop} {text : List UInt8} {as : List α}
    (h : ItemsAfterText item text as) (rest : List UInt8) : Stops (text ++ rest) := by
  cases h with
  | close hbefore =>
    rw [List.append_assoc]
    exact stops_append_cons hbefore (by decide) _
  | next hbefore =>
    rw [List.append_assoc]
    exact stops_append_cons hbefore (by decide) _

section Items
variable {reader : Reader α} {item : List UInt8 → α → Prop}
  (avoids : reader.scan.Avoids Byte.closeBracket)
  (takes : ∀ text a, item text a → reader.scan.Takes text a)
include avoids takes

theorem takes_itemsAfter {text : List UInt8} {as : List α} (h : ItemsAfterText item text as) :
    Scan.Takes (Reader.scan (itemsAfter reader)) text as := by
  induction h with
  | close hbefore =>
    intro rest _
    rw [List.append_assoc, List.singleton_append, scan_itemsAfter,
      andThen_of_ok (next_append hbefore (by decide) rest), if_pos rfl]
    rfl
  | @next before text more a as hbefore hitem hmore ih =>
    intro rest stops
    have htaken := takes text a hitem (more ++ rest) (hmore.stops rest)
    obtain ⟨c, hpeek, hc⟩ := avoids _ _ _ htaken
    rw [List.append_assoc, List.cons_append, List.append_assoc, scan_itemsAfter,
      andThen_of_ok (next_append hbefore (by decide) _), if_neg (by decide), if_pos rfl,
      andThen_of_ok hpeek, if_neg hc, andThen_of_ok htaken]
    exact map_of_ok (ih rest stops) _

theorem takes_items {text : List UInt8} {as : List α} (h : ItemsText item text as) :
    (items reader).scan.Takes text as := by
  intro rest stops
  cases h with
  | none hbefore =>
    rw [List.append_assoc, List.singleton_append, scan_items,
      andThen_of_ok (peek_append hbefore (by decide) rest), if_pos rfl]
    exact map_of_ok (next_append hbefore (by decide) rest) _
  | @some text more a as hitem hmore =>
    have htaken := takes text a hitem (more ++ rest) (hmore.stops rest)
    obtain ⟨c, hpeek, hc⟩ := avoids _ _ _ htaken
    rw [List.append_assoc, scan_items, andThen_of_ok hpeek, if_neg hc, andThen_of_ok htaken]
    exact map_of_ok (takes_itemsAfter avoids takes hmore rest stops) _

end Items

/-! ## Objects -/

/-- The texts of the members after the first, up to the closing brace. Each leads from one state
to the next. -/
inductive MembersAfterText (member : σ → List UInt8 → σ → Prop) : σ → List UInt8 → σ → Prop
  | close {before state} : Blank before →
      MembersAfterText member state (before ++ [Byte.closeBrace]) state
  | next {before text rest state mid last} : Blank before → member state text mid →
      MembersAfterText member mid rest last →
      MembersAfterText member state (before ++ Byte.comma :: (text ++ rest)) last

inductive MembersText (member : σ → List UInt8 → σ → Prop) : σ → List UInt8 → σ → Prop
  | none {before state} : Blank before →
      MembersText member state (before ++ [Byte.closeBrace]) state
  | some {text rest state mid last} : member state text mid →
      MembersAfterText member mid rest last → MembersText member state (text ++ rest) last

theorem MembersAfterText.stops {member : σ → List UInt8 → σ → Prop} {text : List UInt8}
    {state last : σ} (h : MembersAfterText member state text last) (rest : List UInt8) :
    Stops (text ++ rest) := by
  cases h with
  | close hbefore =>
    rw [List.append_assoc]
    exact stops_append_cons hbefore (by decide) _
  | next hbefore =>
    rw [List.append_assoc]
    exact stops_append_cons hbefore (by decide) _

theorem takes_member {key : Reader κ} {entry : σ → κ → Reader σ} {before name text : List UInt8}
    {state last : σ} {k : κ} (hbefore : Blank before)
    (hkey : key.scan.Takes (before ++ Byte.quote :: name) k)
    (hentry : (entry state k).scan.Takes text last)
    (stops : ∀ rest, Stops rest → Stops (text ++ rest)) :
    (member key entry state).scan.Takes (before ++ Byte.quote :: name ++ text) last := by
  intro rest hrest
  have hpeek := peek_append hbefore (b := Byte.quote) (by decide) (name ++ (text ++ rest))
  have htaken := hkey (text ++ rest) (stops rest hrest)
  simp only [List.append_assoc, List.cons_append] at htaken ⊢
  rw [scan_member, andThen_of_ok hpeek, if_pos rfl, andThen_of_ok htaken]
  exact hentry rest hrest

theorem avoids_member (key : Reader κ) (entry : σ → κ → Reader σ) (state : σ) :
    (member key entry state).scan.Avoids Byte.closeBrace := by
  rw [scan_member]
  apply avoids_peek
  intro s a rest h
  rw [if_neg (by decide)] at h
  cases h

section Members
variable {key : Reader κ} {entry : σ → κ → Reader σ} {form : σ → List UInt8 → σ → Prop}
  (takes : ∀ state text mid, form state text mid →
    (member key entry state).scan.Takes text mid)
include takes

theorem takes_membersAfter {text : List UInt8} {state last : σ}
    (h : MembersAfterText form state text last) :
    Scan.Takes (Reader.scan (membersAfter key entry state)) text last := by
  induction h with
  | close hbefore =>
    intro rest _
    rw [List.append_assoc, List.singleton_append, scan_membersAfter,
      andThen_of_ok (next_append hbefore (by decide) rest), if_pos rfl]
    rfl
  | @next before text more state mid last hbefore hmember hmore ih =>
    intro rest stops
    have htaken := takes state text mid hmember (more ++ rest) (hmore.stops rest)
    rw [List.append_assoc, List.cons_append, List.append_assoc, scan_membersAfter,
      andThen_of_ok (next_append hbefore (by decide) _), if_neg (by decide), if_pos rfl,
      andThen_of_ok htaken]
    exact ih rest stops

theorem takes_members {text : List UInt8} {state last : σ}
    (h : MembersText form state text last) :
    (members key entry state).scan.Takes text last := by
  intro rest stops
  cases h with
  | none hbefore =>
    rw [List.append_assoc, List.singleton_append, scan_members,
      andThen_of_ok (peek_append hbefore (by decide) rest), if_pos rfl]
    exact map_of_ok (next_append hbefore (by decide) rest) _
  | @some text more _ mid _ hmember hmore =>
    have htaken := takes state text mid hmember (more ++ rest) (hmore.stops rest)
    obtain ⟨c, hpeek, hc⟩ := avoids_member key entry state _ _ _ htaken
    rw [List.append_assoc, scan_members, andThen_of_ok hpeek, if_neg hc, andThen_of_ok htaken]
    exact takes_membersAfter takes hmore rest stops

end Members

/-! ## Values of every kind -/

theorem avoids_dispatch (atNull atTrue atFalse : α) (number string array object : Reader α) :
    (dispatch atNull atTrue atFalse number string array object).scan.Avoids Byte.closeBracket := by
  rw [scan_dispatch]
  exact avoids_peek fun s a rest h => by cases h

/-- The texts of values, given those of their numbers and strings, and what stands for an array or
an object after its opening byte. -/
inductive DispatchText (atNull atTrue atFalse : α)
    (number string array object : List UInt8 → α → Prop) : List UInt8 → α → Prop
  | null {before} : Blank before →
      DispatchText atNull atTrue atFalse number string array object
        (before ++ 0x6E :: lettersOfNull) atNull
  | true {before} : Blank before →
      DispatchText atNull atTrue atFalse number string array object
        (before ++ 0x74 :: lettersOfTrue) atTrue
  | false {before} : Blank before →
      DispatchText atNull atTrue atFalse number string array object
        (before ++ 0x66 :: lettersOfFalse) atFalse
  | number {before b text a} : Blank before → b = Byte.minus ∨ Byte.isDigit b = true →
      number (b :: text) a →
      DispatchText atNull atTrue atFalse number string array object (before ++ b :: text) a
  | string {before text a} : Blank before → string text a →
      DispatchText atNull atTrue atFalse number string array object
        (before ++ Byte.quote :: text) a
  | array {before text a} : Blank before → array text a →
      DispatchText atNull atTrue atFalse number string array object
        (before ++ Byte.openBracket :: text) a
  | object {before text a} : Blank before → object text a →
      DispatchText atNull atTrue atFalse number string array object
        (before ++ Byte.openBrace :: text) a

theorem takes_fixedWord (letters : List UInt8) (a : α) : (fixedWord letters a).Takes letters a :=
  fun _ _ => fixedWord_eq_ok.mpr ⟨rfl, rfl⟩

theorem takes_opened {before : List UInt8} (hbefore : Blank before) {b : UInt8}
    (hb : Byte.isBlank b = false) {inner : Scan α} {text : List UInt8} {a : α}
    (h : inner.Takes text a) :
    ((Reader.scan next).andThen fun _ => inner).Takes (before ++ b :: text) a := by
  intro rest stops
  rw [List.append_assoc, List.cons_append, andThen_of_ok (next_append hbefore hb _)]
  exact h rest stops

theorem branch_of_number (atNull atTrue atFalse : α) (number string array object : Reader α)
    {b : UInt8} (h : b = Byte.minus ∨ Byte.isDigit b = true) :
    branch atNull atTrue atFalse number string array object b = number.scan := by
  have hother {c : UInt8} (hc : ¬ (c = Byte.minus ∨ Byte.isDigit c = true)) : b ≠ c := by
    rintro rfl
    exact hc h
  rw [branch, if_neg (hother (by decide)), if_neg (hother (by decide)),
    if_neg (hother (by decide)), if_pos h]

theorem isBlank_of_number {b : UInt8} (h : b = Byte.minus ∨ Byte.isDigit b = true) :
    Byte.isBlank b = false := by
  by_contra hblank
  have hblank : Byte.isBlank b = true := by simpa using hblank
  obtain rfl | rfl | rfl | rfl := Byte.isBlank_cases hblank <;> exact absurd h (by decide)

section Dispatch
variable {atNull atTrue atFalse : α} {number string array object : Reader α}
  {numberText stringText arrayText objectText : List UInt8 → α → Prop}
  (hnumber : ∀ before text a, Blank before → numberText text a →
    number.scan.Takes (before ++ text) a)
  (hstring : ∀ before text a, Blank before → stringText text a →
    string.scan.Takes (before ++ Byte.quote :: text) a)
  (harray : ∀ text a, arrayText text a → array.scan.Takes text a)
  (hobject : ∀ text a, objectText text a → object.scan.Takes text a)
include hnumber hstring harray hobject

theorem takes_dispatch {text : List UInt8} {a : α}
    (h : DispatchText atNull atTrue atFalse numberText stringText arrayText objectText text a) :
    (dispatch atNull atTrue atFalse number string array object).scan.Takes text a := by
  have hbranch {before more : List UInt8} {b : UInt8} (hbefore : Blank before)
      (hb : Byte.isBlank b = false) {a : α}
      (ha : (branch atNull atTrue atFalse number string array object b).Takes
        (before ++ b :: more) a) :
      (dispatch atNull atTrue atFalse number string array object).scan.Takes
        (before ++ b :: more) a := by
    intro rest stops
    have htaken := ha rest stops
    rw [List.append_assoc, List.cons_append] at htaken ⊢
    rw [scan_dispatch, andThen_of_ok (peek_append hbefore hb _), htaken]
  cases h with
  | null hbefore =>
    exact hbranch hbefore (by decide) (takes_opened hbefore (by decide) (takes_fixedWord _ _))
  | true hbefore =>
    exact hbranch hbefore (by decide) (takes_opened hbefore (by decide) (takes_fixedWord _ _))
  | false hbefore =>
    exact hbranch hbefore (by decide) (takes_opened hbefore (by decide) (takes_fixedWord _ _))
  | number hbefore hb htext =>
    apply hbranch hbefore (isBlank_of_number hb)
    rw [branch_of_number _ _ _ _ _ _ _ hb]
    exact hnumber _ _ _ hbefore htext
  | string hbefore htext => exact hbranch hbefore (by decide) (hstring _ _ _ hbefore htext)
  | array hbefore htext =>
    exact hbranch hbefore (by decide) (takes_opened hbefore (by decide) (harray _ _ htext))
  | object hbefore htext =>
    exact hbranch hbefore (by decide) (takes_opened hbefore (by decide) (hobject _ _ htext))

end Dispatch
end MessageInspector.Json
