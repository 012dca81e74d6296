import MessageInspector.Proofs.Json.NumberTexts
import MessageInspector.Proofs.Json.StringTexts
import MessageInspector.Proofs.Rewriting
/-!
# Values and their texts

Every text of a value is read as that value. The compact text is one of them, so printing loses
nothing: what was printed reads back, as long as it nests no deeper than a reader goes.
-/
namespace MessageInspector.Json
open Scan

inductive WrittenMember (value : List UInt8 → Value → Prop) :
    List (String × Value) → List UInt8 → List (String × Value) → Prop
  | entry {read before name key after text v} : Blank before → StringText name key →
      Blank after → value text v →
      WrittenMember value read (before ++ Byte.quote :: name ++ (after ++ Byte.colon :: text))
        (OrderedMap.put key v read)

/-- The texts of a value with at most `depth` containers inside one another, whose numbers are
integers of 64 bits. -/
def Written : (depth : Nat) → List UInt8 → Value → Prop
  | 0 =>
    DispatchText .null (.bool true) (.bool false)
      (fun text v => ∃ z, v = .number (.int z) ∧ IntegerText text z)
      (fun text v => ∃ s, v = .string s ∧ StringText text s)
      (fun _ _ => False) (fun _ _ => False)
  | depth + 1 =>
    DispatchText .null (.bool true) (.bool false)
      (fun text v => ∃ z, v = .number (.int z) ∧ IntegerText text z)
      (fun text v => ∃ s, v = .string s ∧ StringText text s)
      (fun text v => ∃ items, v = .array items ∧ ItemsText (Written depth) text items)
      (fun text v => ∃ members, v = .object members ∧
        MembersText (WrittenMember (Written depth)) [] text members)

theorem takes_number {before text : List UInt8} {v : Value} (hbefore : Blank before)
    (h : ∃ z, v = .number (.int z) ∧ IntegerText text z) :
    (numeral.map Value.number).scan.Takes (before ++ text) v := by
  obtain ⟨z, rfl, hz⟩ := h
  exact Reader.takes_map (takes_numeral hbefore hz) _

theorem takes_string {before text : List UInt8} {v : Value} (hbefore : Blank before)
    (h : ∃ s, v = .string s ∧ StringText text s) :
    (literal.map Value.string).scan.Takes (before ++ Byte.quote :: text) v := by
  obtain ⟨s, rfl, hs⟩ := h
  exact Reader.takes_map (takes_literal hbefore hs) _

theorem avoids_value (depth : Nat) : (value depth).scan.Avoids Byte.closeBracket := by
  rw [value_eq]
  exact avoids_dispatch _ _ _ _ _ _ _

theorem takes_writtenMember {reader : Reader Value} {form : List UInt8 → Value → Prop}
    (takes : ∀ text v, form text v → reader.scan.Takes text v) {read last : List (String × Value)}
    {text : List UInt8} (h : WrittenMember form read text last) :
    (member literal (valueEntry reader) read).scan.Takes text last := by
  cases h with
  | entry hbefore hkey hafter hvalue =>
    apply takes_member hbefore (takes_literal hbefore hkey)
    · apply takes_afterColon hafter
      exact Reader.takes_map (takes _ _ hvalue) _
    · exact fun rest _ => stops_colon hafter _ rest

theorem takes_value {depth : Nat} {text : List UInt8} {v : Value} (h : Written depth text v) :
    (value depth).scan.Takes text v := by
  induction depth generalizing text v with
  | zero =>
    apply takes_dispatch _ _ _ _ h
    · exact fun _ _ _ hbefore => takes_number hbefore
    · exact fun _ _ _ hbefore => takes_string hbefore
    · exact nofun
    · exact nofun
  | succ depth ih =>
    apply takes_dispatch _ _ _ _ h
    · exact fun _ _ _ hbefore => takes_number hbefore
    · exact fun _ _ _ hbefore => takes_string hbefore
    · rintro text v ⟨items, rfl, hitems⟩
      exact Reader.takes_map (takes_items (avoids_value depth) (fun _ _ => ih) hitems) _
    · rintro text v ⟨members, rfl, hmembers⟩
      apply Reader.takes_map
      exact takes_members (fun _ _ _ => takes_writtenMember fun _ _ => ih) hmembers

/-! ## Compact texts -/

/-- A value with at most `depth` containers inside one another, whose numbers are integers of 64
bits and whose objects have no key twice. -/
inductive Value.Readable : (depth : Nat) → Value → Prop
  | null {depth} : Readable depth .null
  | bool {depth} (b : Bool) : Readable depth (.bool b)
  | number {depth z} : -(largestNegated : Int) ≤ z ∧ z ≤ largestUnsigned →
      Readable depth (.number (.int z))
  | string {depth} (s : String) : Readable depth (.string s)
  | array {depth items} : (∀ v ∈ items, Readable depth v) → Readable (depth + 1) (.array items)
  | object {depth members} : (members.map Prod.fst).Nodup → (∀ m ∈ members, Readable depth m.2) →
      Readable (depth + 1) (.object members)

theorem Value.Readable.mono {depth larger : Nat} {v : Value} (h : v.Readable depth)
    (hle : depth ≤ larger) : v.Readable larger := by
  induction h generalizing larger with
  | null => exact .null
  | bool b => exact .bool b
  | number hz => exact .number hz
  | string s => exact .string s
  | array _ ih =>
    cases larger with
    | zero => cases hle
    | succ larger => exact .array fun v hv => ih v hv (Nat.le_of_succ_le_succ hle)
  | object hkeys _ ih =>
    cases larger with
    | zero => cases hle
    | succ larger => exact .object hkeys fun m hm => ih m hm (Nat.le_of_succ_le_succ hle)

theorem compactItems_eq (items : List Value) : compactItems items = items.map Value.compact := by
  induction items with
  | nil => rfl
  | cons v items ih => rw [compactItems, ih, List.map_cons]

def memberText (m : String × Value) : String := quote m.1 ++ ":" ++ m.2.compact

theorem compactMembers_eq (members : List (String × Value)) :
    compactMembers members = members.map memberText := by
  induction members with
  | nil => rfl
  | cons m members ih =>
    obtain ⟨key, v⟩ := m
    rw [compactMembers, ih, List.map_cons, memberText]

theorem intercalate_cons_eq_flatMap {α : Type} (b : α) (text : List α) (texts : List (List α)) :
    [b].intercalate (text :: texts) = text ++ texts.flatMap (b :: ·) := by
  induction texts generalizing text with
  | nil => simp
  | cons t texts ih =>
    rw [List.intercalate_cons_cons, ih, List.flatMap_cons]
    simp

section Items
variable {item : List UInt8 → Value → Prop} {items : List Value}
  (h : ∀ v ∈ items, item (Utf8.ofString v.compact) v)
include h

theorem itemsAfterText_compact :
    ItemsAfterText item ((items.map fun v => Utf8.ofString v.compact).flatMap (Byte.comma :: ·) ++
      [Byte.closeBracket]) items := by
  induction items with
  | nil => exact .close blank_nil
  | cons v items ih =>
    have hv := h v List.mem_cons_self
    have hitems := ih fun w hw => h w (List.mem_cons_of_mem _ hw)
    have htext := ItemsAfterText.next blank_nil hv hitems
    simpa using htext

theorem itemsText_compact :
    ItemsText item ([Byte.comma].intercalate (items.map fun v => Utf8.ofString v.compact) ++
      [Byte.closeBracket]) items := by
  cases items with
  | nil => exact .none blank_nil
  | cons v items =>
    have hv := h v List.mem_cons_self
    have hitems := itemsAfterText_compact fun w hw => h w (List.mem_cons_of_mem _ hw)
    rw [List.map_cons, intercalate_cons_eq_flatMap, List.append_assoc]
    exact .some hv hitems

end Items

section Members
variable {value : List UInt8 → Value → Prop} {read members : List (String × Value)}

theorem writtenMember_compact {m : String × Value} (hkey : m.1 ∉ read.map Prod.fst)
    (h : value (Utf8.ofString m.2.compact) m.2) :
    WrittenMember value read (Utf8.ofString (memberText m)) (read ++ [m]) := by
  obtain ⟨name, hquote, hname⟩ := ofString_quote m.1
  have hcolon : Utf8.ofString ":" = [Byte.colon] := rfl
  have htext : WrittenMember value read _ (OrderedMap.put m.1 m.2 read) :=
    .entry blank_nil hname blank_nil h
  rw [OrderedMap.put_of_notMem hkey] at htext
  rw [memberText, Utf8.ofString_append, Utf8.ofString_append, hquote, hcolon]
  simpa using htext

theorem membersAfterText_compact (hkeys : ((read ++ members).map Prod.fst).Nodup)
    (h : ∀ m ∈ members, value (Utf8.ofString m.2.compact) m.2) :
    MembersAfterText (WrittenMember value) read
      ((members.map fun m => Utf8.ofString (memberText m)).flatMap (Byte.comma :: ·) ++
        [Byte.closeBrace]) (read ++ members) := by
  induction members generalizing read with
  | nil =>
    rw [List.append_nil]
    exact .close blank_nil
  | cons m members ih =>
    have hsplit : read ++ m :: members = read ++ [m] ++ members := by simp
    have hkey : m.1 ∉ read.map Prod.fst := by
      intro hmem
      rw [List.map_append, List.nodup_append] at hkeys
      exact hkeys.2.2 m.1 hmem m.1 (by simp) rfl
    rw [hsplit] at hkeys ⊢
    have hm := writtenMember_compact hkey (h m List.mem_cons_self)
    have hmembers := ih hkeys fun n hn => h n (List.mem_cons_of_mem _ hn)
    have htext := MembersAfterText.next blank_nil hm hmembers
    simpa using htext

theorem membersText_compact (hkeys : (members.map Prod.fst).Nodup)
    (h : ∀ m ∈ members, value (Utf8.ofString m.2.compact) m.2) :
    MembersText (WrittenMember value) []
      ([Byte.comma].intercalate (members.map fun m => Utf8.ofString (memberText m)) ++
        [Byte.closeBrace]) members := by
  cases members with
  | nil => exact .none blank_nil
  | cons m members =>
    have hm : WrittenMember value [] _ ([] ++ [m]) :=
      writtenMember_compact List.not_mem_nil (h m List.mem_cons_self)
    have hmembers : MembersAfterText (WrittenMember value) [m] _ ([m] ++ members) :=
      membersAfterText_compact hkeys fun n hn => h n (List.mem_cons_of_mem _ hn)
    rw [List.map_cons, intercalate_cons_eq_flatMap, List.append_assoc]
    exact .some hm hmembers

end Members

theorem ofString_compact_array (items : List Value) :
    Utf8.ofString (Value.array items).compact = Byte.openBracket ::
      ([Byte.comma].intercalate (items.map fun v => Utf8.ofString v.compact) ++
        [Byte.closeBracket]) := by
  have hopen : Utf8.ofString "[" = [Byte.openBracket] := rfl
  have hcomma : Utf8.ofString "," = [Byte.comma] := rfl
  have hclose : Utf8.ofString "]" = [Byte.closeBracket] := rfl
  rw [Value.compact, Utf8.ofString_append, Utf8.ofString_append, Utf8.ofString_intercalate,
    compactItems_eq, List.map_map, hopen, hcomma, hclose, List.append_assoc, List.singleton_append]
  simp only [Function.comp_def]

theorem ofString_compact_object (members : List (String × Value)) :
    Utf8.ofString (Value.object members).compact = Byte.openBrace ::
      ([Byte.comma].intercalate (members.map fun m => Utf8.ofString (memberText m)) ++
        [Byte.closeBrace]) := by
  have hopen : Utf8.ofString "\x7b" = [Byte.openBrace] := rfl
  have hcomma : Utf8.ofString "," = [Byte.comma] := rfl
  have hclose : Utf8.ofString "\x7d" = [Byte.closeBrace] := rfl
  rw [Value.compact, Utf8.ofString_append, Utf8.ofString_append, Utf8.ofString_intercalate,
    compactMembers_eq, List.map_map, hopen, hcomma, hclose, List.append_assoc,
    List.singleton_append]
  simp only [Function.comp_def]

theorem written_compact {depth : Nat} {v : Value} (h : v.Readable depth) :
    Written depth (Utf8.ofString v.compact) v := by
  induction h with
  | @null depth => cases depth <;> exact .null blank_nil
  | @bool depth b =>
    cases b with
    | false => cases depth <;> exact .false blank_nil
    | true => cases depth <;> exact .true blank_nil
  | @number depth z hz =>
    have htext := integerText_text hz
    obtain ⟨b, more, hb, hstart⟩ := htext.head
    rw [Value.compact]
    rw [hb] at htext ⊢
    cases depth <;> exact .number blank_nil hstart ⟨z, rfl, htext⟩
  | @string depth s =>
    obtain ⟨text, hquote, hs⟩ := ofString_quote s
    rw [Value.compact, hquote]
    cases depth <;> exact .string blank_nil ⟨s, rfl, hs⟩
  | @array depth items _ ih =>
    rw [ofString_compact_array]
    exact .array blank_nil ⟨items, rfl, itemsText_compact ih⟩
  | @object depth members hkeys _ ih =>
    rw [ofString_compact_object]
    exact .object blank_nil ⟨members, rfl, membersText_compact hkeys ih⟩

/-- What was printed reads back. -/
theorem readText_compact {v : Value} (h : v.Readable largestDepth) :
    readText v.compact = .ok v := by
  have hdocument := document_of_takes (takes_value (written_compact h)) blank_nil
  rwa [List.append_nil] at hdocument

/-! ## Keys -/

section Keys
variable {κ σ : Type} {key : Reader κ} {entry : σ → κ → Reader σ} {P : σ → Prop}
  (keeps : ∀ state k s last rest, P state → (entry state k).scan s = .ok (last, rest) → P last)
  {s rest : List UInt8} {state last : σ}
include keeps

theorem member_keeps (hstate : P state)
    (h : (member key entry state).scan s = .ok (last, rest)) : P last := by
  rw [scan_member] at h
  obtain ⟨c, t, -, h⟩ := andThen_eq_ok.mp h
  split at h
  · obtain ⟨k, u, -, hentry⟩ := andThen_eq_ok.mp h
    exact keeps state k u last rest hstate hentry
  · cases h

theorem membersAfter_keeps (hstate : P state)
    (h : Reader.scan (membersAfter key entry state) s = .ok (last, rest)) : P last := by
  induction hn : s.length using Nat.strongRecOn generalizing s state with
  | ind n ih =>
    rw [scan_membersAfter] at h
    obtain ⟨c, t, hc, h⟩ := andThen_eq_ok.mp h
    have ht := Reader.length_lt_of_scan hc
    split at h
    · cases h
      exact hstate
    · split at h
      · obtain ⟨mid, u, hmember, hmore⟩ := andThen_eq_ok.mp h
        have hu := Reader.length_lt_of_scan hmember
        exact ih u.length (by omega) (member_keeps keeps hstate hmember) hmore rfl
      · cases h

theorem members_keeps (hstate : P state)
    (h : (members key entry state).scan s = .ok (last, rest)) : P last := by
  rw [scan_members] at h
  obtain ⟨c, t, -, h⟩ := andThen_eq_ok.mp h
  split at h
  · obtain ⟨b, -, rfl⟩ := map_eq_ok.mp h
    exact hstate
  · obtain ⟨mid, u, hmember, hmore⟩ := andThen_eq_ok.mp h
    exact membersAfter_keeps keeps (member_keeps keeps hstate hmember) hmore

end Keys

theorem valueEntry_keeps_nodup (reader : Reader Value) (read : List (String × Value))
    (key : String) (s : List UInt8) (last : List (String × Value)) (rest : List UInt8)
    (hread : (read.map Prod.fst).Nodup)
    (h : (valueEntry reader read key).scan s = .ok (last, rest)) : (last.map Prod.fst).Nodup := by
  rw [valueEntry, scan_afterColon, Reader.scan_map] at h
  obtain ⟨_, t, -, h⟩ := andThen_eq_ok.mp h
  obtain ⟨v, -, rfl⟩ := map_eq_ok.mp h
  exact OrderedMap.nodup_put key v hread

theorem nodup_of_value {depth : Nat} {s rest : List UInt8} {members : List (String × Value)}
    (h : (value depth).scan s = .ok (.object members, rest)) : (members.map Prod.fst).Nodup := by
  rw [scan_value] at h
  obtain ⟨c, t, -, hbranch⟩ := andThen_eq_ok.mp h
  obtain ⟨-, hlast⟩ | ⟨rfl, -⟩ := opener_of_closer hbranch rfl
  · exact absurd hlast (by decide)
  · have hobject : valueBranch depth Byte.openBrace =
        (Reader.scan next).andThen fun _ => (objectRest depth).scan := rfl
    rw [hobject] at hbranch
    obtain ⟨_, u, -, hrest⟩ := andThen_eq_ok.mp hbranch
    cases depth with
    | zero => cases hrest
    | succ depth =>
      rw [objectRest, Reader.scan_map] at hrest
      obtain ⟨read, hread, hmembers⟩ := map_eq_ok.mp hrest
      obtain rfl : read = members := Value.object.inj hmembers
      exact members_keeps (P := fun read => (read.map Prod.fst).Nodup)
        (valueEntry_keeps_nodup (value depth)) List.nodup_nil hread

theorem nodup_of_read {bytes : List UInt8} {members : List (String × Value)}
    (h : read bytes = .ok (.object members)) : (members.map Prod.fst).Nodup := by
  obtain ⟨rest, hscan, -⟩ := document_eq_ok.mp h
  exact nodup_of_value hscan

end MessageInspector.Json
