import MessageInspector.Json.Record
import MessageInspector.Proofs.Json.NumberTexts
import MessageInspector.Proofs.Json.StringTexts
/-!
# Skipped values

A value that nobody asks for is passed over, whatever it is: the grammar alone counts, and a text
cannot nest deeper than it is long.
-/
namespace MessageInspector.Json
open Scan

inductive SkippedMember (value : List UInt8 → Unit → Prop) : Unit → List UInt8 → Unit → Prop
  | entry {before name after text} : Blank before → SkippedLiteral name → Blank after →
      value text () →
      SkippedMember value ()
        (before ++ Byte.quote :: (name ++ [Byte.quote]) ++ (after ++ Byte.colon :: text)) ()

/-- The texts of values of any kind with at most `depth` containers inside one another. -/
def SkippedValue : (depth : Nat) → List UInt8 → Unit → Prop
  | 0 =>
    DispatchText () () () (fun text _ => NumberText text)
      (fun text _ => ∃ inner, text = inner ++ [Byte.quote] ∧ SkippedLiteral inner)
      (fun _ _ => False) (fun _ _ => False)
  | depth + 1 =>
    DispatchText () () () (fun text _ => NumberText text)
      (fun text _ => ∃ inner, text = inner ++ [Byte.quote] ∧ SkippedLiteral inner)
      (fun text _ => ∃ items, ItemsText (SkippedValue depth) text items)
      (fun text _ => MembersText (SkippedMember (SkippedValue depth)) () text ())

def AnyValue (text : List UInt8) : Prop := ∃ depth, SkippedValue depth text ()

theorem takes_skipString {before text : List UInt8} (hbefore : Blank before)
    (h : ∃ inner, text = inner ++ [Byte.quote] ∧ SkippedLiteral inner) :
    (Reader.scan skipLiteral).Takes (before ++ Byte.quote :: text) () := by
  obtain ⟨inner, rfl, hinner⟩ := h
  exact takes_skipLiteral hbefore hinner

theorem takes_skippedMember {reader : Reader Unit} {form : List UInt8 → Unit → Prop}
    (takes : ∀ text u, form text u → reader.scan.Takes text u) {text : List UInt8} {u v : Unit}
    (h : SkippedMember form u text v) :
    (member skipLiteral (fun _ _ => afterColon reader) u).scan.Takes text v := by
  cases h with
  | entry hbefore hname hafter hvalue =>
    apply takes_member hbefore (takes_skipLiteral hbefore hname)
    · exact takes_afterColon hafter (takes _ _ hvalue)
    · exact fun rest _ => stops_colon hafter _ rest

theorem avoids_skipWithin (depth : Nat) : (skipWithin depth).scan.Avoids Byte.closeBracket := by
  cases depth <;> exact avoids_dispatch _ _ _ _ _ _ _

theorem takes_skipWithin {depth : Nat} {text : List UInt8} {u : Unit}
    (h : SkippedValue depth text u) : (skipWithin depth).scan.Takes text u := by
  induction depth generalizing text u with
  | zero =>
    apply takes_dispatch _ _ _ _ h
    · exact fun _ _ _ hbefore => takes_skipNumeral hbefore
    · exact fun _ _ _ hbefore => takes_skipString hbefore
    · exact nofun
    · exact nofun
  | succ depth ih =>
    apply takes_dispatch _ _ _ _ h
    · exact fun _ _ _ hbefore => takes_skipNumeral hbefore
    · exact fun _ _ _ hbefore => takes_skipString hbefore
    · rintro text u ⟨items, hitems⟩
      exact Reader.takes_map (takes_items (avoids_skipWithin depth) (fun _ _ => ih) hitems) _
    · intro text u hmembers
      exact takes_members (fun _ _ _ => takes_skippedMember fun _ _ => ih) hmembers

/-! ## Depth -/

section Bounded
variable {α σ : Type} {n : Nat}

theorem DispatchText.imp {atNull atTrue atFalse : α}
    {number string array object array' object' : List UInt8 → α → Prop} {text : List UInt8} {a : α}
    (h : DispatchText atNull atTrue atFalse number string array object text a)
    (harray : ∀ t a, t.length < text.length → array t a → array' t a)
    (hobject : ∀ t a, t.length < text.length → object t a → object' t a) :
    DispatchText atNull atTrue atFalse number string array' object' text a := by
  cases h with
  | null hbefore => exact .null hbefore
  | true hbefore => exact .true hbefore
  | false hbefore => exact .false hbefore
  | number hbefore hb htext => exact .number hbefore hb htext
  | string hbefore htext => exact .string hbefore htext
  | array hbefore htext => exact .array hbefore (harray _ _ (by simp; omega) htext)
  | object hbefore htext => exact .object hbefore (hobject _ _ (by simp; omega) htext)

theorem ItemsAfterText.imp {item other : List UInt8 → α → Prop} {text : List UInt8} {as : List α}
    (h : ItemsAfterText item text as) (hn : text.length ≤ n)
    (himp : ∀ t a, t.length ≤ n → item t a → other t a) : ItemsAfterText other text as := by
  induction h with
  | close hbefore => exact .close hbefore
  | next hbefore hitem _ ih =>
    simp only [List.length_append, List.length_cons] at hn
    exact .next hbefore (himp _ _ (by omega) hitem) (ih (by omega))

theorem ItemsText.imp {item other : List UInt8 → α → Prop} {text : List UInt8} {as : List α}
    (h : ItemsText item text as) (hn : text.length ≤ n)
    (himp : ∀ t a, t.length ≤ n → item t a → other t a) : ItemsText other text as := by
  cases h with
  | none hbefore => exact .none hbefore
  | some hitem hmore =>
    rw [List.length_append] at hn
    exact .some (himp _ _ (by omega) hitem) (hmore.imp (by omega) himp)

theorem MembersAfterText.imp {form other : σ → List UInt8 → σ → Prop} {text : List UInt8}
    {state last : σ} (h : MembersAfterText form state text last) (hn : text.length ≤ n)
    (himp : ∀ a t b, t.length ≤ n → form a t b → other a t b) :
    MembersAfterText other state text last := by
  induction h with
  | close hbefore => exact .close hbefore
  | next hbefore hmember _ ih =>
    simp only [List.length_append, List.length_cons] at hn
    exact .next hbefore (himp _ _ _ (by omega) hmember) (ih (by omega))

theorem MembersText.imp {form other : σ → List UInt8 → σ → Prop} {text : List UInt8}
    {state last : σ} (h : MembersText form state text last) (hn : text.length ≤ n)
    (himp : ∀ a t b, t.length ≤ n → form a t b → other a t b) :
    MembersText other state text last := by
  cases h with
  | none hbefore => exact .none hbefore
  | some hmember hmore =>
    rw [List.length_append] at hn
    exact .some (himp _ _ _ (by omega) hmember) (hmore.imp (by omega) himp)

end Bounded

theorem SkippedMember.imp {n : Nat} {value other : List UInt8 → Unit → Prop} {text : List UInt8}
    {u v : Unit} (h : SkippedMember value u text v) (hn : text.length ≤ n)
    (himp : ∀ t w, t.length ≤ n → value t w → other t w) : SkippedMember other u text v := by
  cases h with
  | entry hbefore hname hafter hvalue =>
    simp only [List.length_append, List.length_cons] at hn
    exact .entry hbefore hname hafter (himp _ _ (by omega) hvalue)

theorem SkippedValue.of_length {depth n : Nat} {text : List UInt8} {u : Unit}
    (h : SkippedValue depth text u) (hn : text.length ≤ n) : SkippedValue n text u := by
  induction depth generalizing text u n with
  | zero =>
    cases n with
    | zero => exact h
    | succ n => exact DispatchText.imp h (fun _ _ _ => False.elim) fun _ _ _ => False.elim
  | succ depth ih =>
    cases n with
    | zero => exact DispatchText.imp h (fun _ _ ht _ => by omega) fun _ _ ht _ => by omega
    | succ n =>
      -- What is inside a container lacks its opening byte, so `n` bounds its length.
      apply DispatchText.imp h
      · rintro t w ht ⟨items, hitems⟩
        exact ⟨items, hitems.imp (by omega) fun t w ht hw => ih hw ht⟩
      · intro t w ht hmembers
        exact hmembers.imp (by omega) fun a t b ht hm => hm.imp ht fun t w ht hw => ih hw ht

theorem takes_skip {text : List UInt8} (h : AnyValue text) : (Reader.scan skip).Takes text () := by
  obtain ⟨depth, hvalue⟩ := h
  intro rest stops
  have hdepth : SkippedValue (text ++ rest).length text () :=
    hvalue.of_length (by rw [List.length_append]; omega)
  exact takes_skipWithin hdepth rest stops

end MessageInspector.Json
