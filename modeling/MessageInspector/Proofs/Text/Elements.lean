import Mathlib.Data.List.Infix
import MessageInspector.Proofs.Text.Entities
/-!
# Elements

An element is text between an opening and a closing tag. Splitting a text at the tags of one name gives
back the contents of its elements, as long as no tag of that name stands within them.
-/
namespace MessageInspector.Markup

def openTag (name : String) : List Char := '<' :: (name.toList ++ ['>'])

def closeTag (name : String) : List Char := '<' :: '/' :: (name.toList ++ ['>'])

def element (name : String) (content : List Char) : List Char :=
  openTag name ++ content ++ closeTag name

def splitAtTag (tag : List Char) : List Char → List (List Char)
  | [] => [[]]
  | c :: rest =>
    if tag <+: c :: rest then [] :: splitAtTag tag (rest.drop (tag.length - 1))
    else (splitAtTag tag rest).modifyHead (c :: ·)
termination_by text => text.length
decreasing_by
  · simp only [List.length_drop, List.length_cons]
    omega
  · exact Nat.lt_succ_self _

def contents (name : String) (text : List Char) : List (List Char) :=
  (splitAtTag (openTag name) text).tail.map fun part =>
    (splitAtTag (closeTag name) part).headD []

/-- A left angle bracket stands at the front of a tag and nowhere else in it. -/
def IsTag (tag : List Char) : Prop := ∃ name, tag = '<' :: name ∧ '<' ∉ name

theorem isTag_openTag {name : String} (h : '<' ∉ name.toList) : IsTag (openTag name) :=
  ⟨_, rfl, by simp [h]⟩

theorem isTag_closeTag {name : String} (h : '<' ∉ name.toList) : IsTag (closeTag name) :=
  ⟨_, rfl, by simp [h]⟩

theorem prefix_of_notMem {c : Char} {front text rest : List Char} (hc : c ∉ front)
    (h : front <+: text ++ c :: rest) : front <+: text := by
  rcases List.prefix_or_prefix_of_prefix h (List.prefix_append text (c :: rest)) with hfront | ⟨more, rfl⟩
  · exact hfront
  · rw [List.prefix_append_right_inj] at h
    cases more with
    | nil => simp
    | cons d more =>
      obtain ⟨rfl, -⟩ := List.cons_prefix_cons.mp h
      simp at hc

namespace IsTag
variable {tag part text rest : List Char}

/-- A tag that begins before a left angle bracket ends before it. -/
theorem prefix_of_append (h : IsTag tag) {c : Char}
    (hstart : tag <+: c :: part ++ '<' :: rest) : tag <+: c :: part := by
  obtain ⟨name, rfl, hname⟩ := h
  rw [List.cons_append, List.cons_prefix_cons] at hstart
  exact List.cons_prefix_cons.mpr ⟨hstart.1, prefix_of_notMem hname hstart.2⟩

theorem infix_of_append (h : IsTag tag) (hwithin : tag <:+: part ++ '<' :: rest) :
    tag <:+: part ∨ tag <:+: '<' :: rest := by
  induction part with
  | nil => exact .inr hwithin
  | cons c part ih =>
    rw [List.cons_append, List.infix_cons_iff] at hwithin
    rcases hwithin with hstart | hwithin
    · exact .inl (h.prefix_of_append hstart).isInfix
    · rcases ih hwithin with hpart | hrest
      · exact .inl (List.infix_cons hpart)
      · exact .inr hrest

theorem splitAtTag_self (h : IsTag tag) (rest : List Char) :
    splitAtTag tag (tag ++ rest) = [] :: splitAtTag tag rest := by
  obtain ⟨name, rfl, -⟩ := h
  have hstart : '<' :: name <+: '<' :: (name ++ rest) := List.prefix_append ('<' :: name) rest
  rw [List.cons_append, splitAtTag, if_pos hstart]
  simp

theorem splitAtTag_append (h : IsTag tag) (absent : ¬ tag <:+: part) (rest : List Char) :
    splitAtTag tag (part ++ (tag ++ rest)) = part :: splitAtTag tag rest := by
  induction part with
  | nil => exact h.splitAtTag_self rest
  | cons c part ih =>
    rw [List.infix_cons_iff, not_or] at absent
    have hstart : ¬ tag <+: c :: (part ++ (tag ++ rest)) := by
      have htag := h
      obtain ⟨name, rfl, -⟩ := h
      intro hstart
      exact absent.1 (htag.prefix_of_append hstart)
    rw [List.cons_append, splitAtTag, if_neg hstart, ih absent.2, List.modifyHead_cons]

end IsTag

theorem splitAtTag_absent {tag text : List Char} (absent : ¬ tag <:+: text) :
    splitAtTag tag text = [text] := by
  induction text with
  | nil => rw [splitAtTag]
  | cons c text ih =>
    rw [List.infix_cons_iff, not_or] at absent
    rw [splitAtTag, if_neg absent.1, ih absent.2, List.modifyHead_cons]

/-- Names of elements: they hold no character that starts a tag or marks it as a closing one. -/
def IsName (name : String) : Prop := '<' ∉ name.toList ∧ '/' ∉ name.toList

instance (name : String) : Decidable (IsName name) := inferInstanceAs (Decidable (_ ∧ _))

section Elements
variable {name : String} {texts : List (List Char)} {rest : List Char}

theorem not_prefix_closeTag (h : IsName name) : ¬ openTag name <+: closeTag name := by
  intro hstart
  rw [openTag, closeTag, List.cons_prefix_cons] at hstart
  have hslash := h.2
  cases hchars : name.toList with
  | nil => simp [hchars] at hstart
  | cons c chars =>
    rw [hchars, List.cons_append, List.cons_prefix_cons] at hstart
    simp [hchars, hstart.2.1] at hslash

theorem not_openTag_append_closeTag (h : IsName name) {text : List Char}
    (absent : ¬ openTag name <:+: text) : ¬ openTag name <:+: text ++ closeTag name := by
  intro hwithin
  have htag := isTag_openTag h.1
  rcases htag.infix_of_append hwithin with htext | hclose
  · exact absent htext
  · rw [List.infix_cons_iff] at hclose
    rcases hclose with hstart | hinner
    · exact not_prefix_closeTag h hstart
    · have hmem : '<' ∈ '/' :: (name.toList ++ ['>']) := hinner.subset List.mem_cons_self
      simp [h.1] at hmem

theorem splitAtTag_elements (h : IsName name) (absent : ∀ text ∈ texts, ¬ openTag name <:+: text)
    {part : List Char} (hpart : ¬ openTag name <:+: part) :
    splitAtTag (openTag name) (part ++ texts.flatMap (element name)) =
      part :: texts.map (· ++ closeTag name) := by
  have htag := isTag_openTag h.1
  induction texts generalizing part with
  | nil => rw [List.flatMap_nil, List.append_nil, splitAtTag_absent hpart, List.map_nil]
  | cons text texts ih =>
    obtain ⟨htext, htexts⟩ := List.forall_mem_cons.mp absent
    have hrest := ih htexts (not_openTag_append_closeTag h htext)
    rw [List.flatMap_cons, element, List.append_assoc, List.append_assoc,
      htag.splitAtTag_append hpart, ← List.append_assoc, hrest, List.map_cons]

theorem contents_elements (h : IsName name)
    (absent : ∀ text ∈ texts, ¬ openTag name <:+: text ∧ ¬ closeTag name <:+: text) :
    contents name (texts.flatMap (element name)) = texts := by
  have htag := isTag_closeTag h.1
  have hnil : ¬ openTag name <:+: [] := by simp [openTag]
  have hparts := splitAtTag_elements h (fun text htext => (absent text htext).1) hnil
  have hcontent (text : List Char) (htext : text ∈ texts) :
      (splitAtTag (closeTag name) (text ++ closeTag name)).headD [] = text := by
    have hsplit := htag.splitAtTag_append (absent text htext).2 []
    rw [List.append_nil] at hsplit
    rw [hsplit, List.headD_cons]
  rw [List.nil_append] at hparts
  rw [contents, hparts, List.tail_cons, List.map_map]
  exact (List.map_congr_left hcontent).trans (List.map_id texts)

/-- Where the contents hold no tag, every left angle bracket begins a tag of an element. -/
theorem tag_of_suffix_elements (h : IsName name) (plain : ∀ text ∈ texts, '<' ∉ text)
    (hsuffix : '<' :: rest <:+ texts.flatMap (element name)) :
    ∃ tag ∈ [openTag name, closeTag name], tag <+: '<' :: rest := by
  induction texts with
  | nil => simp at hsuffix
  | cons text texts ih =>
    obtain ⟨htext, htexts⟩ := List.forall_mem_cons.mp plain
    have hopening : '<' ∉ name.toList ++ ['>'] ++ text := by simp [h.1, htext]
    have hclosing : '<' ∉ '/' :: (name.toList ++ ['>']) := by simp [h.1]
    have hshape : (text :: texts).flatMap (element name) =
        '<' :: (name.toList ++ ['>'] ++ text ++
          '<' :: ('/' :: (name.toList ++ ['>']) ++ texts.flatMap (element name))) := by
      simp [element, openTag, closeTag]
    rw [hshape, List.suffix_cons_iff] at hsuffix
    rcases hsuffix with heq | hsuffix
    · refine ⟨openTag name, by simp, ?_⟩
      rw [heq, List.append_assoc]
      exact List.prefix_append (openTag name) _
    · have hclose := suffix_of_not_mem hopening hsuffix
      rw [List.suffix_cons_iff] at hclose
      rcases hclose with heq | hsuffix
      · refine ⟨closeTag name, by simp, ?_⟩
        rw [heq]
        exact List.prefix_append (closeTag name) _
      · exact ih htexts (suffix_of_not_mem hclosing hsuffix)

theorem absent_elements {tag : List Char} (htag : IsTag tag) (h : IsName name)
    (other : ∀ own ∈ [openTag name, closeTag name], ¬ tag <+: own ∧ ¬ own <+: tag)
    (plain : ∀ text ∈ texts, '<' ∉ text) : ¬ tag <:+: texts.flatMap (element name) := by
  intro hwithin
  obtain ⟨chars, rfl, -⟩ := htag
  obtain ⟨before, after, htexts⟩ := hwithin
  have hsuffix : '<' :: (chars ++ after) <:+ texts.flatMap (element name) :=
    ⟨before, by rw [← htexts]; simp⟩
  obtain ⟨own, hown, hstart⟩ := tag_of_suffix_elements h plain hsuffix
  have htag : '<' :: chars <+: '<' :: (chars ++ after) := List.prefix_append ('<' :: chars) after
  rcases List.prefix_or_prefix_of_prefix htag hstart with hfirst | hfirst
  · exact (other own hown).1 hfirst
  · exact (other own hown).2 hfirst

end Elements
end MessageInspector.Markup
