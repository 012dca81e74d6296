import MessageInspector.Content.Body
import MessageInspector.Proofs.Json.Documents
/-!
# Cut bodies

A body of a structured type is shown as the whole table that it holds or as text. Where it was cut
decides: after the closing byte of its document the table is still the whole one, and before it
nothing can be read that looks like a table.
-/
namespace MessageInspector.Content
variable {mimeType : String} {raw : List UInt8}

def structuredTypes : List String := [listType, mapType, messageMapType]

def closingByte (mimeType : String) : UInt8 :=
  if isList mimeType then Json.Byte.closeBracket else Json.Byte.closeBrace

/-- A JSON value as a table, if a body of this type may hold it. -/
def table? (mimeType : String) : Json.Value → Option DecodedBody
  | .array items => if isList mimeType then some (.itemList (itemRows 0 items)) else none
  | .object members => if isMap mimeType then some (.keyValueTable (memberRows members)) else none
  | _ => none

theorem structured_cases (h : mimeType ∈ structuredTypes) :
    isText mimeType = false ∧
      (isList mimeType = true ∧ isMap mimeType = false ∨
        isList mimeType = false ∧ isMap mimeType = true) := by
  simp only [structuredTypes, List.mem_cons, List.not_mem_nil, or_false] at h
  obtain rfl | rfl | rfl := h
  · decide +kernel
  · decide +kernel
  · decide +kernel

theorem decode_eq_ok (h : mimeType ∈ structuredTypes) {body : DecodedBody} :
    decode mimeType raw = .ok body ↔ ∃ v, Json.read raw = .ok v ∧ table? mimeType v = some body := by
  obtain ⟨htext, ⟨hlist, hmap⟩ | ⟨hlist, hmap⟩⟩ := structured_cases h
  · simp only [decode, htext, hlist, Bool.false_eq_true, if_false, if_true]
    cases Json.read raw with
    | error fault => simp
    | ok v => cases v <;> simp [table?, hlist, hmap]
  · simp only [decode, htext, hlist, hmap, Bool.false_eq_true, if_false, if_true]
    cases Json.read raw with
    | error fault => simp
    | ok v => cases v <;> simp [table?, hlist, hmap]

theorem closer_of_table (h : mimeType ∈ structuredTypes) {v : Json.Value} {body : DecodedBody}
    (hv : table? mimeType v = some body) : v.closer? = some (closingByte mimeType) := by
  obtain ⟨-, ⟨hlist, hmap⟩ | ⟨hlist, hmap⟩⟩ := structured_cases h
  · cases v <;> simp_all [table?, closingByte, Json.Value.closer?]
  · cases v <;> simp_all [table?, closingByte, Json.Value.closer?]

theorem table_ne_plainText {v : Json.Value} {body : DecodedBody}
    (hv : table? mimeType v = some body) (text : String) : body ≠ .plainText text := by
  rintro rfl
  cases v <;> simp [table?] at hv

theorem decodeOrText_of_error (h : isPreviewable (some mimeType) = true) {e : DecodeError}
    (he : decode mimeType raw = .error e) : decodeOrText mimeType raw = .ok (plainText raw) := by
  have hsupported : ∀ m, e ≠ .unsupported m := by
    rintro m rfl
    simp only [isPreviewable] at h
    simp only [decode] at he
    repeat' split at he
    all_goals simp_all
  rw [decodeOrText, he]
  cases e with
  | unsupported m => exact absurd rfl (hsupported m)
  | malformed m fault => rfl
  | unexpectedShape m expected => rfl

theorem decodeOrText_of_ok {body : DecodedBody} (h : decode mimeType raw = .ok body) :
    decodeOrText mimeType raw = .ok body := by
  rw [decodeOrText, h]

theorem decodeOrText_isOk (h : isPreviewable (some mimeType) = true) (raw : List UInt8) :
    ∃ body, decodeOrText mimeType raw = .ok body := by
  cases hd : decode mimeType raw with
  | error e => exact ⟨plainText raw, decodeOrText_of_error h hd⟩
  | ok body => exact ⟨body, decodeOrText_of_ok hd⟩

theorem decode_of_decodeOrText {body : DecodedBody} (h : decodeOrText mimeType raw = .ok body) :
    decode mimeType raw = .ok body ∨ body = plainText raw := by
  rw [decodeOrText] at h
  split at h
  · rename_i decoded
    rw [decoded]
    exact .inl h
  · cases h
  · cases h
    exact .inr rfl

theorem decode_of_not_previewable (unknown : ¬ isPreviewable (some mimeType) = true)
    (raw : List UInt8) : decode mimeType raw = .error (.unsupported mimeType) := by
  simp_all [isPreviewable, decode]

theorem previewable_of_decodeOrText {body : DecodedBody} (h : decodeOrText mimeType raw = .ok body) :
    isPreviewable (some mimeType) = true := by
  by_contra unknown
  rw [decodeOrText, decode_of_not_previewable unknown] at h
  cases h

theorem eq_listType_of_items {items : List (Nat × String)}
    (h : decodeOrText mimeType raw = .ok (.itemList items)) : mimeType = listType := by
  obtain h | h := decode_of_decodeOrText h
  · rw [decode] at h
    split at h
    · cases h
    · split at h
      · rename_i hlist
        exact beq_iff_eq.mp hlist
      · split at h
        · split at h <;> cases h
        · cases h
  · cases h

theorem eq_mapType_of_entries {entries : List (String × String)}
    (h : decodeOrText mimeType raw = .ok (.keyValueTable entries)) :
    mimeType = mapType ∨ mimeType = messageMapType := by
  obtain h | h := decode_of_decodeOrText h
  · rw [decode] at h
    split at h
    · cases h
    · split at h
      · split at h <;> cases h
      · split at h
        · rename_i hmap
          simpa [isMap] using hmap
        · cases h
  · cases h

theorem previewable_of_structured (h : mimeType ∈ structuredTypes) :
    isPreviewable (some mimeType) = true := by
  obtain ⟨-, ⟨hlist, -⟩ | ⟨-, hmap⟩⟩ := structured_cases h
  · simp [isPreviewable, hlist]
  · simp [isPreviewable, hmap]

/-- A structured body that was cut anywhere is shown as its whole table if the byte that closes its
document is still there, and otherwise as text. -/
theorem decodeOrText_take {table : DecodedBody} (structured : mimeType ∈ structuredTypes)
    (whole : decode mimeType raw = .ok table) :
    (∀ text, table ≠ .plainText text) ∧
      ∃ inner blanks, raw = inner ++ closingByte mimeType :: blanks ∧
        (∀ b ∈ blanks, Json.Byte.isBlank b = true) ∧
        ∀ n, decodeOrText mimeType (raw.take n) =
          .ok (if inner.length < n then table
            else .plainText (Utf8.decodeLossy (raw.take n))) := by
  obtain ⟨v, hread, htable⟩ := (decode_eq_ok structured).mp whole
  have hcloser := closer_of_table structured htable
  obtain ⟨inner, blanks, hraw, hblanks, hlonger, hshorter⟩ := Json.read_take hread hcloser
  refine ⟨table_ne_plainText htable, inner, blanks, hraw, hblanks, ?_⟩
  intro n
  by_cases hn : inner.length < n
  · rw [if_pos hn]
    exact decodeOrText_of_ok ((decode_eq_ok structured).mpr ⟨v, hlonger n hn, htable⟩)
  · rw [if_neg hn]
    cases hd : decode mimeType (raw.take n) with
    | error e => exact decodeOrText_of_error (previewable_of_structured structured) hd
    | ok part =>
      obtain ⟨w, hw, hpart⟩ := (decode_eq_ok structured).mp hd
      have hopen := hshorter n (Nat.le_of_not_lt hn) w hw
      rw [closer_of_table structured hpart] at hopen
      cases hopen

theorem decodeOrText_take_of_list :
    let body := Utf8.ofString "[7, []] "
    let table : DecodedBody := .itemList [(0, "7"), (1, "[]")]
    listType ∈ structuredTypes ∧ decode listType body = .ok table ∧
      ∃ inner blanks, body = inner ++ Json.Byte.closeBracket :: blanks ∧
        (∀ b ∈ blanks, Json.Byte.isBlank b = true) ∧
        ∀ n, decodeOrText listType (body.take n) =
          .ok (if inner.length < n then table
            else .plainText (Utf8.decodeLossy (body.take n))) := by
  have structured : listType ∈ structuredTypes := by decide
  have whole : decode listType (Utf8.ofString "[7, []] ") =
      .ok (.itemList [(0, "7"), (1, "[]")]) := by decide +kernel
  exact ⟨structured, whole, (decodeOrText_take structured whole).2⟩

end MessageInspector.Content
