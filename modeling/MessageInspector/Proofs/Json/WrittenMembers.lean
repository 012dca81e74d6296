import MessageInspector.Proofs.Json.Documents
import MessageInspector.Proofs.Rewriting
/-!
# Members as they are written

An object text holds its members one after another, and may give a key more than once. What is read
of it holds each key once, in the place of its first member and with the value of its last.
-/
namespace MessageInspector.Json
open Scan

inductive MemberAt (depth : Nat) : List UInt8 → String × Value → List UInt8 → Prop
  | entry {s t u rest key v} : literal.scan s = .ok (key, t) → skipBlanks t = Byte.colon :: u →
      (value depth).scan u = .ok (v, rest) → MemberAt depth s (key, v) rest

inductive MembersAfterAt (depth : Nat) :
    List UInt8 → List (String × Value) → List UInt8 → Prop
  | close {s rest} : skipBlanks s = Byte.closeBrace :: rest → MembersAfterAt depth s [] rest
  | next {s t u rest m ms} : skipBlanks s = Byte.comma :: t → MemberAt depth t m u →
      MembersAfterAt depth u ms rest → MembersAfterAt depth s (m :: ms) rest

inductive MembersAt (depth : Nat) : List UInt8 → List (String × Value) → List UInt8 → Prop
  | none {s rest} : skipBlanks s = Byte.closeBrace :: rest → MembersAt depth s [] rest
  | some {s t rest m ms} : MemberAt depth s m t → MembersAfterAt depth t ms rest →
      MembersAt depth s (m :: ms) rest

/-- The text is that of an object with these members, in the order in which they are written. -/
def ObjectText (text : String) (written : List (String × Value)) : Prop :=
  ∃ t rest, skipBlanks (Utf8.ofString text) = Byte.openBrace :: t ∧
    MembersAt (largestDepth - 1) t written rest ∧ skipBlanks rest = []

def putAll (read written : List (String × Value)) : List (String × Value) :=
  written.foldl (fun read m => OrderedMap.put m.1 m.2 read) read

variable {depth : Nat} {s rest : List UInt8} {read last : List (String × Value)}

theorem scan_mark_eq_ok {b : UInt8} :
    Reader.scan (mark b) s = .ok ((), rest) ↔ skipBlanks s = b :: rest := by
  rw [scan_mark, andThen_eq_ok]
  constructor
  · rintro ⟨c, t, hc, h⟩
    split at h
    · rename_i hcb
      cases h
      rw [← hcb]
      exact scan_next_eq_ok.mp hc
    · cases h
  · intro h
    exact ⟨b, rest, scan_next_eq_ok.mpr h, by rw [if_pos rfl]; rfl⟩

theorem peek_of_literal {key : String} (h : literal.scan s = .ok (key, rest)) :
    peek s = .ok (Byte.quote, s) := by
  rw [scan_literal, andThen_eq_ok] at h
  rcases h with ⟨c, t, hc, h⟩
  split at h
  · rename_i hquote
    rw [peek_eq_ok, scan_next_eq_ok.mp hc, hquote]
    exact ⟨rfl, rfl⟩
  · cases h

theorem scan_member_eq_ok :
    (member literal (valueEntry (value depth)) read).scan s = .ok (last, rest) ↔
      ∃ m, MemberAt depth s m rest ∧ last = OrderedMap.put m.1 m.2 read := by
  rw [scan_member, andThen_eq_ok]
  constructor
  · rintro ⟨c, t, hpeek, h⟩
    obtain ⟨-, rfl⟩ := peek_eq_ok.mp hpeek
    split at h
    · obtain ⟨key, u, hkey, h⟩ := andThen_eq_ok.mp h
      rw [valueEntry, scan_afterColon] at h
      obtain ⟨_, w, hcolon, h⟩ := andThen_eq_ok.mp h
      rw [Reader.scan_map] at h
      obtain ⟨v, hv, rfl⟩ := map_eq_ok.mp h
      exact ⟨(key, v), .entry hkey (scan_mark_eq_ok.mp hcolon) hv, rfl⟩
    · cases h
  · rintro ⟨_, ⟨hkey, hcolon, hv⟩, rfl⟩
    refine ⟨Byte.quote, s, peek_of_literal hkey, ?_⟩
    rw [if_pos rfl, andThen_of_ok hkey, valueEntry, scan_afterColon,
      andThen_of_ok (scan_mark_eq_ok.mpr hcolon), Reader.scan_map]
    exact map_of_ok hv _

theorem scan_membersAfter_eq_ok :
    Reader.scan (membersAfter literal (valueEntry (value depth)) read) s = .ok (last, rest) ↔
      ∃ written, MembersAfterAt depth s written rest ∧ last = putAll read written := by
  constructor
  · intro h
    induction hn : s.length using Nat.strongRecOn generalizing s read with
    | ind n ih =>
      rw [scan_membersAfter] at h
      obtain ⟨c, t, hc, h⟩ := andThen_eq_ok.mp h
      have ht := Reader.length_lt_of_scan hc
      have hblanks := scan_next_eq_ok.mp hc
      split at h
      · rename_i hclose
        cases h
        exact ⟨[], .close (hclose ▸ hblanks), rfl⟩
      · split at h
        · rename_i hcomma
          obtain ⟨mid, u, hmember, hmore⟩ := andThen_eq_ok.mp h
          have hu := Reader.length_lt_of_scan hmember
          obtain ⟨m, hm, rfl⟩ := scan_member_eq_ok.mp hmember
          obtain ⟨ms, hms, rfl⟩ := ih u.length (by omega) hmore rfl
          exact ⟨m :: ms, .next (hcomma ▸ hblanks) hm hms, rfl⟩
        · cases h
  · rintro ⟨written, h, rfl⟩
    induction h generalizing read with
    | close hclose =>
      rw [scan_membersAfter, andThen_of_ok (scan_next_eq_ok.mpr hclose), if_pos rfl]
      rfl
    | next hcomma hm _ ih =>
      have hmember := scan_member_eq_ok.mpr ⟨_, hm, (rfl : OrderedMap.put _ _ read = _)⟩
      rw [scan_membersAfter, andThen_of_ok (scan_next_eq_ok.mpr hcomma), if_neg (by decide),
        if_pos rfl, andThen_of_ok hmember]
      exact ih

theorem scan_members_eq_ok :
    (members literal (valueEntry (value depth)) read).scan s = .ok (last, rest) ↔
      ∃ written, MembersAt depth s written rest ∧ last = putAll read written := by
  rw [scan_members, andThen_eq_ok]
  constructor
  · rintro ⟨c, t, hpeek, h⟩
    obtain ⟨hhead, rfl⟩ := peek_eq_ok.mp hpeek
    split at h
    · rename_i hclose
      obtain ⟨b, hb, rfl⟩ := map_eq_ok.mp h
      have hblanks := scan_next_eq_ok.mp hb
      obtain rfl : b = c := by
        rw [hblanks] at hhead
        exact Option.some.inj hhead
      exact ⟨[], .none (hclose ▸ hblanks), rfl⟩
    · obtain ⟨mid, u, hmember, hmore⟩ := andThen_eq_ok.mp h
      obtain ⟨m, hm, rfl⟩ := scan_member_eq_ok.mp hmember
      obtain ⟨ms, hms, rfl⟩ := scan_membersAfter_eq_ok.mp hmore
      exact ⟨m :: ms, .some hm hms, rfl⟩
  · rintro ⟨written, h, rfl⟩
    cases h with
    | none hclose =>
      refine ⟨Byte.closeBrace, s, peek_eq_ok.mpr ⟨by rw [hclose]; rfl, rfl⟩, ?_⟩
      rw [if_pos rfl]
      exact map_of_ok (scan_next_eq_ok.mpr hclose) _
    | some hm hms =>
      have hmember := scan_member_eq_ok.mpr ⟨_, hm, (rfl : OrderedMap.put _ _ read = _)⟩
      cases hm with
      | entry hkey =>
        refine ⟨Byte.quote, s, peek_of_literal hkey, ?_⟩
        rw [if_neg (by decide), andThen_of_ok hmember]
        exact scan_membersAfter_eq_ok.mpr ⟨_, hms, rfl⟩

theorem scan_value_object {members : List (String × Value)} :
    (value (depth + 1)).scan s = .ok (.object members, rest) ↔
      ∃ t written, skipBlanks s = Byte.openBrace :: t ∧ MembersAt depth t written rest ∧
        members = putAll [] written := by
  have hbranch : valueBranch (depth + 1) Byte.openBrace =
      (Reader.scan next).andThen fun _ => (objectRest (depth + 1)).scan := rfl
  rw [scan_value, andThen_eq_ok]
  constructor
  · rintro ⟨c, u, hpeek, h⟩
    obtain ⟨-, rfl⟩ := peek_eq_ok.mp hpeek
    obtain ⟨-, hlast⟩ | ⟨rfl, -⟩ := opener_of_closer h rfl
    · exact absurd hlast (by decide)
    · rw [hbranch] at h
      obtain ⟨b, t, hnext, hobject⟩ := andThen_eq_ok.mp h
      have hblanks := scan_next_eq_ok.mp hnext
      obtain ⟨hhead, -⟩ := peek_eq_ok.mp hpeek
      rw [hblanks, List.head?_cons, Option.some.injEq] at hhead
      rw [objectRest, Reader.scan_map] at hobject
      obtain ⟨read, hread, hmembers⟩ := map_eq_ok.mp hobject
      obtain ⟨written, hwritten, rfl⟩ := scan_members_eq_ok.mp hread
      exact ⟨t, written, hhead ▸ hblanks, hwritten, (Value.object.inj hmembers).symm⟩
  · rintro ⟨t, written, hblanks, hwritten, rfl⟩
    refine ⟨Byte.openBrace, s, peek_eq_ok.mpr ⟨by rw [hblanks]; rfl, rfl⟩, ?_⟩
    rw [hbranch, andThen_of_ok (scan_next_eq_ok.mpr hblanks), objectRest, Reader.scan_map]
    exact map_of_ok (scan_members_eq_ok.mpr ⟨written, hwritten, rfl⟩) _

theorem putAll_nil_eq (written : List (String × Value)) :
    putAll [] written = (OrderedMap.ofList written).entries := by
  induction written using List.reverseRecOn with
  | nil => rfl
  | append_singleton written m ih =>
    have happend : putAll [] (written ++ [m]) = putAll (putAll [] written) [m] :=
      List.foldl_append
    rw [OrderedMap.ofList_concat, happend, ih]
    rfl

/-- What is read of an object text are its members, each key once. -/
theorem readText_object_iff {text : String} {members : List (String × Value)} :
    readText text = .ok (.object members) ↔
      ∃ written, ObjectText text written ∧ members = (OrderedMap.ofList written).entries := by
  have hdepth : largestDepth = (largestDepth - 1) + 1 := rfl
  rw [readText, read, hdepth, document_eq_ok]
  simp only [scan_value_object, putAll_nil_eq]
  constructor
  · rintro ⟨rest, ⟨t, written, hopen, hmembers, rfl⟩, hrest⟩
    exact ⟨written, ⟨t, rest, hopen, hmembers, hrest⟩, rfl⟩
  · rintro ⟨written, ⟨t, rest, hopen, hmembers, hrest⟩, rfl⟩
    exact ⟨rest, ⟨t, written, hopen, hmembers, rfl⟩, hrest⟩

end MessageInspector.Json
