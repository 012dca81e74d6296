import MessageInspector.Content.Body
import MessageInspector.Fetch.Preview
import MessageInspector.Proofs.Text.CutTexts
/-!
# Previews of texts

A fetch for a preview keeps the first bytes of the content, whoever cuts it: the broker, which was
asked for so many bytes, or the fetch itself. Of a text, the characters whose bytes were all kept are
shown, and a character that was cut is shown as one replacement character.
-/
namespace MessageInspector

theorem PreviewFetch.receive_take (fetch : PreviewFetch) (body : List UInt8)
    (declared : Option Nat) :
    fetch.receive (.ok ⟨body.take fetch.limit, declared⟩) = fetch.receive (.ok ⟨body, declared⟩) := by
  simp only [receive, Except.map, ContentPayload.cut, List.take_take, Nat.min_self]

theorem Content.decode_of_text {mimeType : String} (typed : isText mimeType = true)
    (raw : List UInt8) : decode mimeType raw = .ok (.plainText (Utf8.decodeLossy raw)) := by
  rw [decode, if_pos typed]
  rfl

/-- What a fetch keeps of a body are its first bytes, up to the limit, with the size that was declared.
Of a text they show the longest start that fits into the limit, with one replacement character after
it exactly if the limit falls inside a character. -/
theorem PreviewFetch.receive_keepsLongestFit (fetch : PreviewFetch) (body : List UInt8)
    (declared : Option Nat) :
    ∃ kept, kept <+: body ∧ kept.length = min fetch.limit body.length ∧
      (∀ sent, sent = body ∨ sent = body.take fetch.limit →
        fetch.receive (.ok ⟨sent, declared⟩) = .ok ⟨kept, declared⟩) ∧
      ∀ text mimeType, Utf8.decode? body = some text → Content.isText mimeType = true →
        ∃ whole, Utf8.LongestFit fetch.limit text.toList whole ∧
          (Utf8.FallsInside fetch.limit text.toList →
            Content.decode mimeType kept = .ok (.plainText (String.ofList (whole ++ ['\uFFFD'])))) ∧
          (¬ Utf8.FallsInside fetch.limit text.toList →
            Content.decode mimeType kept = .ok (.plainText (String.ofList whole))) := by
  refine ⟨body.take fetch.limit, List.take_prefix _ _, List.length_take, ?_, ?_⟩
  · rintro sent (rfl | rfl)
    · rfl
    · rw [receive_take]
      rfl
  · intro text mimeType valid typed
    rw [Content.decode_of_text typed]
    obtain rfl := Utf8.decode?_eq_some_iff.mp valid
    obtain ⟨whole, longest, inside, outside⟩ :=
      Utf8.decodeLossy_take_encode fetch.limit text.toList
    refine ⟨whole, longest, ?_, ?_⟩
    · intro h
      rw [← inside h]
      rfl
    · intro h
      rw [← outside h]
      rfl

theorem PreviewFetch.receive_keepsLongestFit_of_euro :
    let fetch : PreviewFetch := ⟨ManagedObject.queue "node" "host" "q", ⟨"1"⟩, "text/plain", 3⟩
    let body := Utf8.ofString "a€b"
    Utf8.decode? body = some "a€b" ∧ Content.isText "text/plain" = true ∧
      Utf8.FallsInside 3 "a€b".toList ∧
      ∃ kept whole, kept.length = 3 ∧ fetch.receive (.ok ⟨body, some 5⟩) = .ok ⟨kept, some 5⟩ ∧
        fetch.receive (.ok ⟨body.take 3, some 5⟩) = .ok ⟨kept, some 5⟩ ∧
        Utf8.LongestFit 3 "a€b".toList whole ∧
        Content.decode "text/plain" kept = .ok (.plainText (String.ofList (whole ++ ['\uFFFD']))) := by
  intro fetch body
  have valid : Utf8.decode? body = some "a€b" := Utf8.decode?_ofString _
  have typed : Content.isText "text/plain" = true := by decide +kernel
  have inside : Utf8.FallsInside 3 "a€b".toList :=
    ⟨['a'], '€', ['b'], by decide, by decide, by decide⟩
  obtain ⟨kept, -, hlength, hreceive, hread⟩ := fetch.receive_keepsLongestFit body (some 5)
  obtain ⟨whole, longest, hinside, -⟩ := hread "a€b" "text/plain" valid typed
  exact ⟨valid, typed, inside, kept, whole, hlength, hreceive body (.inl rfl), hreceive _ (.inr rfl),
    longest, hinside inside⟩

end MessageInspector
