import MessageInspector.Text.Markup
/-!
# Entities

Escaped text holds no character that markup gives a meaning to, apart from the ampersands of the five
entities, and undoing the entities gives the text back.
-/
namespace MessageInspector.Markup

def entities : List String := ["&amp;", "&lt;", "&gt;", "&quot;", "&#39;"]

def delimiters : List Char := ['<', '>', '\x22', '\x27']

/-- No delimiter stands in the text, and every ampersand in it begins an entity. -/
def Inert (text : List Char) : Prop :=
  (∀ c ∈ text, c ∉ delimiters) ∧
    ∀ rest, '&' :: rest <:+ text → ∃ entity ∈ entities, entity.toList <+: '&' :: rest

def unescapeChars : List Char → List Char
  | '&' :: 'a' :: 'm' :: 'p' :: ';' :: rest => '&' :: unescapeChars rest
  | '&' :: 'l' :: 't' :: ';' :: rest => '<' :: unescapeChars rest
  | '&' :: 'g' :: 't' :: ';' :: rest => '>' :: unescapeChars rest
  | '&' :: 'q' :: 'u' :: 'o' :: 't' :: ';' :: rest => '\x22' :: unescapeChars rest
  | '&' :: '#' :: '3' :: '9' :: ';' :: rest => '\x27' :: unescapeChars rest
  | c :: rest => c :: unescapeChars rest
  | [] => []

def unescape (s : String) : String := String.ofList (unescapeChars s.toList)

theorem escapeChar_cases (c : Char) :
    escapeChar c = [c] ∧ c ≠ '&' ∧ c ∉ delimiters ∨ c ∈ '&' :: delimiters := by
  by_cases hc : c ∈ '&' :: delimiters
  · exact .inr hc
  · have hplain := hc
    simp only [delimiters, List.mem_cons, List.not_mem_nil, or_false, not_or] at hplain
    obtain ⟨hamp, hlt, hgt, hquote, happly⟩ := hplain
    left
    refine ⟨?_, hamp, fun h => hc (List.mem_cons_of_mem _ h)⟩
    simp only [escapeChar, hamp, hlt, hgt, hquote, happly, if_false]

theorem escapeChar_mem_entities {c : Char} (h : c ∈ '&' :: delimiters) :
    String.ofList (escapeChar c) ∈ entities := by
  simp only [delimiters, List.mem_cons, List.not_mem_nil, or_false] at h
  obtain rfl | rfl | rfl | rfl | rfl := h <;> decide

theorem unescapeChars_of_ne {c : Char} (h : c ≠ '&') (rest : List Char) :
    unescapeChars (c :: rest) = c :: unescapeChars rest := by
  rw [unescapeChars.eq_6]
  all_goals
    intros
    exact absurd ‹_› h

theorem unescapeChars_escapeChar (c : Char) (rest : List Char) :
    unescapeChars (escapeChar c ++ rest) = c :: unescapeChars rest := by
  obtain ⟨hc, hamp, -⟩ | h := escapeChar_cases c
  · rw [hc]
    exact unescapeChars_of_ne hamp rest
  · simp only [delimiters, List.mem_cons, List.not_mem_nil, or_false] at h
    obtain rfl | rfl | rfl | rfl | rfl := h <;> rfl

theorem unescapeChars_escape (text : List Char) :
    unescapeChars (text.flatMap escapeChar) = text := by
  induction text with
  | nil => rfl
  | cons c text ih => rw [List.flatMap_cons, unescapeChars_escapeChar, ih]

theorem unescape_escape (s : String) : unescape (escape s) = s := by
  rw [unescape, toList_escape, unescapeChars_escape, String.ofList_toList]

theorem entity_eq_cons {entity : String} (h : entity ∈ entities) :
    ∃ tail, entity.toList = '&' :: tail ∧ '&' ∉ tail ∧ ∀ c ∈ tail, c ∉ delimiters := by
  simp only [entities, List.mem_cons, List.not_mem_nil, or_false] at h
  obtain rfl | rfl | rfl | rfl | rfl := h
  · exact ⟨['a', 'm', 'p', ';'], rfl, by simp, by simp [delimiters]⟩
  · exact ⟨['l', 't', ';'], rfl, by simp, by simp [delimiters]⟩
  · exact ⟨['g', 't', ';'], rfl, by simp, by simp [delimiters]⟩
  · exact ⟨['q', 'u', 'o', 't', ';'], rfl, by simp, by simp [delimiters]⟩
  · exact ⟨['#', '3', '9', ';'], rfl, by simp, by simp [delimiters]⟩

theorem suffix_of_not_mem {c : Char} {front rest text : List Char} (hc : c ∉ front)
    (h : c :: rest <:+ front ++ text) : c :: rest <:+ text := by
  induction front with
  | nil => exact h
  | cons d front ih =>
    rw [List.mem_cons, not_or] at hc
    rw [List.cons_append, List.suffix_cons_iff] at h
    obtain heq | hsuffix := h
    · exact absurd (List.cons.inj heq).1 hc.1
    · exact ih hc.2 hsuffix

theorem inert_nil : Inert [] := by
  refine ⟨nofun, ?_⟩
  intro rest h
  cases List.suffix_nil.mp h

theorem Inert.cons {c : Char} {text : List Char} (h : Inert text) (hamp : c ≠ '&')
    (hc : c ∉ delimiters) : Inert (c :: text) := by
  constructor
  · intro d hd
    obtain rfl | hd := List.mem_cons.mp hd
    · exact hc
    · exact h.1 d hd
  · intro rest hrest
    have hfront : '&' ∉ [c] := by simpa using hamp.symm
    exact h.2 rest (suffix_of_not_mem hfront hrest)

theorem Inert.entity {entity : String} {text : List Char} (h : Inert text)
    (hentity : entity ∈ entities) : Inert (entity.toList ++ text) := by
  obtain ⟨tail, heq, hamp, hdelimiters⟩ := entity_eq_cons hentity
  constructor
  · intro c hc
    rw [heq, List.cons_append, List.mem_cons, List.mem_append] at hc
    obtain rfl | hc | hc := hc
    · decide
    · exact hdelimiters c hc
    · exact h.1 c hc
  · intro rest hrest
    rw [heq, List.cons_append, List.suffix_cons_iff] at hrest
    obtain hwhole | hrest := hrest
    · refine ⟨entity, hentity, ?_⟩
      rw [hwhole, heq]
      exact List.prefix_append ('&' :: tail) text
    · exact h.2 rest (suffix_of_not_mem hamp hrest)

theorem inert_flatMap_escapeChar (text : List Char) : Inert (text.flatMap escapeChar) := by
  induction text with
  | nil => exact inert_nil
  | cons c text ih =>
    rw [List.flatMap_cons]
    obtain ⟨hc, hamp, hplain⟩ | hspecial := escapeChar_cases c
    · rw [hc]
      exact ih.cons hamp hplain
    · have hentity := ih.entity (escapeChar_mem_entities hspecial)
      rw [String.toList_ofList] at hentity
      exact hentity

theorem inert_escape (s : String) : Inert (escape s).toList := by
  rw [toList_escape]
  exact inert_flatMap_escapeChar s.toList

theorem Inert.no_tag {text : List Char} (h : Inert text) : '<' ∉ text :=
  fun hmem => h.1 '<' hmem (by decide)

end MessageInspector.Markup
