import Mathlib.Data.List.Nodup
import MessageInspector.Preview.Content
import MessageInspector.Proofs.Content.Decoding
import MessageInspector.Proofs.Content.Enumeration
import MessageInspector.Proofs.Json.RoundTrip
/-!
# Tables of structured bodies

The table of a list or a map holds each item or member once, under its position or its key, as a
text that reads back as the value. So a table loses nothing, and no two of its rows share an
identifier.
-/
namespace MessageInspector.Content
variable {mimeType : String} {raw : List UInt8}

theorem read_compact {v : Json.Value} (h : v.Readable Json.largestDepth) :
    Json.read (Utf8.ofString v.compact) = .ok v :=
  Json.readText_compact h

theorem readText_item {items : List Json.Value}
    (h : (Json.Value.array items).Readable Json.largestDepth) :
    ∀ v ∈ items, Json.readText v.compact = .ok v := by
  intro v hv
  cases h with
  | array hitems => exact Json.readText_compact ((hitems v hv).mono (Nat.le_succ _))

theorem readText_member {members : List (String × Json.Value)}
    (h : (Json.Value.object members).Readable Json.largestDepth) :
    ∀ m ∈ members, Json.readText m.2.compact = .ok m.2 := by
  intro m hm
  cases h with
  | object _ hmembers => exact Json.readText_compact ((hmembers m hm).mono (Nat.le_succ _))

theorem nodup_of_readable {depth : Nat} {members : List (String × Json.Value)}
    (h : (Json.Value.object members).Readable depth) : (members.map Prod.fst).Nodup := by
  cases h with
  | object hkeys _ => exact hkeys

theorem itemRows_eq (index : Nat) (items : List Json.Value) :
    itemRows index items = (items.zipIdx index).map fun item => (item.2, item.1.compact) := by
  induction items generalizing index with
  | nil => rfl
  | cons v items ih => rw [itemRows, ih, List.zipIdx_cons, List.map_cons]

theorem decode_cases {body : DecodedBody} (h : decode mimeType raw = .ok body) :
    (∃ text, body = .plainText text) ∨ (∃ items, body = .itemList (itemRows 0 items)) ∨
      ∃ members, Json.read raw = .ok (.object members) ∧
        body = .keyValueTable (memberRows members) := by
  rw [decode] at h
  split at h
  · exact .inl ⟨_, (Except.ok.inj h).symm⟩
  split at h
  · split at h
    · cases h
    · exact .inr (.inl ⟨_, (Except.ok.inj h).symm⟩)
    · cases h
  split at h
  · split at h
    · cases h
    · rename_i members hread
      exact .inr (.inr ⟨members, hread, (Except.ok.inj h).symm⟩)
    · cases h
  · cases h

theorem positions_itemRows (items : List Json.Value) :
    (itemRows 0 items).map Prod.fst = List.range' 0 items.length := by
  rw [itemRows_eq, List.map_map]
  exact List.zipIdx_map_snd 0 items

theorem toString_injective : Function.Injective fun n : Nat => toString n := by
  intro a b h
  have hdigits : Nat.toDigits 10 a = Nat.toDigits 10 b := by simpa using congrArg String.toList h
  have hvalue := congrArg (fun ds => Nat.ofDigitChars 10 ds 0) hdigits
  simpa [Nat.ofDigitChars_toDigits] using hvalue

theorem nodup_positions (items : List Json.Value) :
    ((itemRows 0 items).map fun row => toString row.1).Nodup := by
  have hrows : (itemRows 0 items).map (fun row => toString row.1) =
      ((itemRows 0 items).map Prod.fst).map toString := by
    rw [List.map_map]
    rfl
  rw [hrows, positions_itemRows]
  exact List.Nodup.map toString_injective List.nodup_range'

theorem nodup_keys {members : List (String × Json.Value)}
    (h : Json.read raw = .ok (.object members)) : ((memberRows members).map Prod.fst).Nodup := by
  have hkeys : (memberRows members).map Prod.fst = (enumerationOrder members).map Prod.fst := by
    rw [memberRows, List.map_map]
    rfl
  rw [hkeys]
  exact ((enumerationOrder_perm members).map Prod.fst).nodup_iff.mpr (Json.nodup_of_read h)

theorem nodup_rows {body : DecodedBody} (h : decode mimeType raw = .ok body)
    (limit totalBytes textRows : Nat) :
    ((Preview.ContentPreview.ofBody body limit totalBytes textRows).rows.map
      Preview.Row.id).Nodup := by
  obtain ⟨text, rfl⟩ | ⟨items, rfl⟩ | ⟨members, hread, rfl⟩ := decode_cases h
  · exact List.nodup_nil
  · have hids : (Preview.ContentPreview.ofBody (.itemList (itemRows 0 items)) limit totalBytes
        textRows).rows.map Preview.Row.id = (itemRows 0 items).map fun row => toString row.1 := by
      simp only [Preview.ContentPreview.rows, Preview.ContentPreview.ofBody, Preview.widgetOf,
        Preview.Table.ofItems, List.map_map, Function.comp_def]
    rw [hids]
    exact nodup_positions items
  · have hids : (Preview.ContentPreview.ofBody (.keyValueTable (memberRows members)) limit
        totalBytes textRows).rows.map Preview.Row.id = (memberRows members).map Prod.fst := by
      simp only [Preview.ContentPreview.rows, Preview.ContentPreview.ofBody, Preview.widgetOf,
        Preview.Table.ofEntries, List.map_map, Function.comp_def]
    rw [hids]
    exact nodup_keys hread

/-- The table of a list or a map that was printed holds each part once, under its position or key
and as a text that reads back; and no two rows of any table share an identifier. -/
theorem decode_keepsParts :
    (∀ items, (Json.Value.array items).Readable Json.largestDepth →
      decode listType (Utf8.ofString (Json.Value.array items).compact) =
        .ok (.itemList (items.zipIdx.map fun item => (item.2, item.1.compact))) ∧
      ∀ v ∈ items, Json.readText v.compact = .ok v) ∧
    (∀ mimeType ∈ [mapType, messageMapType], ∀ members,
      (Json.Value.object members).Readable Json.largestDepth →
      ∃ order, Enumerates members order ∧
        decode mimeType (Utf8.ofString (Json.Value.object members).compact) =
          .ok (.keyValueTable (order.map fun m => (m.1, m.2.compact))) ∧
        ∀ m ∈ members, Json.readText m.2.compact = .ok m.2) ∧
    ∀ mimeType raw body, decode mimeType raw = .ok body → ∀ limit totalBytes textRows,
      ((Preview.ContentPreview.ofBody body limit totalBytes textRows).rows.map
        Preview.Row.id).Nodup := by
  refine ⟨?_, ?_, fun _ _ _ => nodup_rows⟩
  · intro items h
    have hlist : listType ∈ structuredTypes := by decide
    have htable : table? listType (.array items) = some (.itemList (itemRows 0 items)) := by
      rw [table?, if_pos (by decide)]
    refine ⟨?_, readText_item h⟩
    rw [← itemRows_eq]
    exact (decode_eq_ok hlist).mpr ⟨_, read_compact h, htable⟩
  · intro mimeType hmap members h
    have hstructured : mimeType ∈ structuredTypes := List.mem_cons_of_mem _ hmap
    have htable : table? mimeType (.object members) =
        some (.keyValueTable (memberRows members)) := by
      have : isMap mimeType = true := by simpa [isMap] using hmap
      rw [table?, if_pos this]
    refine ⟨_, enumerates_enumerationOrder (nodup_of_readable h), ?_, readText_member h⟩
    exact (decode_eq_ok hstructured).mpr ⟨_, read_compact h, htable⟩

theorem decode_keepsParts_of_nested :
    let items : List Json.Value :=
      [.number (.int (-9223372036854775808)), .string "\"\\\n\u0001é",
        .array [.null, .object [("k", .bool true)]]]
    let members : List (String × Json.Value) :=
      [("é", .number (.int 18446744073709551615)), ("10", .object []), ("9", .array [])]
    let raw := Utf8.ofString "\x7b\"a\":1, \"3\":[], \"a\":2\x7d "
    let body : DecodedBody := .keyValueTable [("3", "[]"), ("a", "2")]
    ((Json.Value.array items).Readable Json.largestDepth ∧
      decode listType (Utf8.ofString (Json.Value.array items).compact) =
        .ok (.itemList (items.zipIdx.map fun item => (item.2, item.1.compact))) ∧
      ∀ v ∈ items, Json.readText v.compact = .ok v) ∧
    ((Json.Value.object members).Readable Json.largestDepth ∧
      ∃ order, Enumerates members order ∧
        decode mapType (Utf8.ofString (Json.Value.object members).compact) =
          .ok (.keyValueTable (order.map fun m => (m.1, m.2.compact))) ∧
        ∀ m ∈ members, Json.readText m.2.compact = .ok m.2) ∧
    decode messageMapType raw = .ok body ∧
      ((Preview.ContentPreview.ofBody body 8 8 4).rows.map Preview.Row.id).Nodup := by
  intro items members raw body
  have hitems : (Json.Value.array items).Readable Json.largestDepth := by
    refine .array ?_
    simp only [items, List.forall_mem_cons]
    refine ⟨.number (by decide), .string _, .array ?_, nofun⟩
    simp only [List.forall_mem_cons]
    refine ⟨.null, .object (by decide) ?_, nofun⟩
    simp only [List.forall_mem_cons]
    exact ⟨.bool true, nofun⟩
  have hmembers : (Json.Value.object members).Readable Json.largestDepth := by
    refine .object (by decide) ?_
    simp only [members, List.forall_mem_cons]
    exact ⟨.number (by decide), .object List.nodup_nil nofun, .array nofun, nofun⟩
  have hbody : decode messageMapType raw = .ok body := by decide +kernel
  exact ⟨⟨hitems, decode_keepsParts.1 items hitems⟩,
    ⟨hmembers, decode_keepsParts.2.1 mapType (by decide) members hmembers⟩,
    hbody, decode_keepsParts.2.2 messageMapType raw body hbody 8 8 4⟩

end MessageInspector.Content
