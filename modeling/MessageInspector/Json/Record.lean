import MessageInspector.Json.Document
/-!
# Reading typed documents

Readers for a wanted type. A record is written as an object, whose unknown members are skipped and
whose known ones may not repeat, or as an array of its fields in order.
-/
namespace MessageInspector.Json

/-- The fault of a text that holds something else than wanted. A scalar is read to its end first,
so that a broken one counts as broken; of a container only the start is seen. -/
def mismatchAt (s : List UInt8) : Fault :=
  match next s with
  | .error fault => fault
  | .ok c =>
    if c.value = Byte.openBracket ∨ c.value = Byte.openBrace then .mismatch
    else
      match value 0 s with
      | .error fault => fault
      | .ok _ => .mismatch

def integerIn (fits : Int → Bool) : Reader Int := fun s =>
  match next s with
  | .error fault => .error fault
  | .ok c =>
    if c.value = Byte.minus ∨ Byte.isDigit c.value then
      match numeral s with
      | .error fault => .error fault
      | .ok n =>
        match n.value with
        | .int z => if fits z then .ok (n.map fun _ => z) else .error .mismatch
        | .real _ => .error .mismatch
    else .error (mismatchAt s)

def naturalBelow (bound : Nat) : Reader Nat :=
  (integerIn fun z => 0 ≤ z && z < bound).map Int.toNat

def integerBetween (lowest highest : Int) : Reader Int :=
  integerIn fun z => lowest ≤ z && z ≤ highest

def text : Reader String := fun s =>
  match next s with
  | .error fault => .error fault
  | .ok c => if c.value = Byte.quote then literal s else .error (mismatchAt s)

def optionalText : Reader (Option String) := fun s =>
  match next s with
  | .error fault => .error fault
  | .ok c =>
    if c.value = 0x6E then wordValue lettersOfNull none s c.rest c.shorter
    else (text.map some) s

def textList : Reader (List String) := fun s =>
  match next s with
  | .error fault => .error fault
  | .ok c =>
    if c.value = Byte.openBracket then
      match items text c.rest with
      | .error fault => .error fault
      | .ok x => .ok (c.after x)
    else .error (mismatchAt s)

def nullValue : Reader Unit := fun s =>
  match next s with
  | .error fault => .error fault
  | .ok c =>
    if c.value = 0x6E then wordValue lettersOfNull () s c.rest c.shorter
    else .error (mismatchAt s)

/-- A field of a record that is read piece by piece into a draft. -/
structure Field (δ : Type) where
  name : String
  isSet : δ → Bool
  read : δ → Reader δ

def Field.of {δ α : Type} (name : String) (reader : Reader α) (get : δ → Option α)
    (set : α → δ → δ) : Field δ :=
  { name := name
    isSet := fun draft => (get draft).isSome
    read := fun draft => reader.map fun a => set a draft }

/-- A record type: its fields, the draft without any of them, whether an array may leave out the
last ones, and the record of a draft unless a field is missing. -/
structure Record (δ α : Type) where
  fields : List (Field δ)
  blank : δ
  mayEndEarly : Bool
  finish : δ → Option α

namespace Record
variable {δ α : Type}

def entry (record : Record δ α) (draft : δ) (key : String) : Reader δ :=
  match record.fields.find? (·.name = key) with
  | some field =>
    if field.isSet draft then fun _ => .error .mismatch else afterColon (field.read draft)
  | none => afterColon (skip.map fun _ => draft)

/-- The given fields in order, up to and including the closing bracket. All but the first field of
the record come after a comma. -/
def fieldsFrom (mayEndEarly : Bool) :
    List (Field δ) → (isFirst : Bool) → δ → Reader δ
  | [], _, draft => fun s => (mark Byte.closeBracket s).map (Taken.map fun _ => draft)
  | field :: fields, isFirst, draft => fun s =>
    match next s with
    | .error fault => .error fault
    | .ok c =>
      if c.value = Byte.closeBracket then
        if mayEndEarly then .ok (c.map fun _ => draft) else .error .mismatch
      else if isFirst then
        match field.read draft s with
        | .error fault => .error fault
        | .ok x =>
          match fieldsFrom mayEndEarly fields false x.value x.rest with
          | .error fault => .error fault
          | .ok y => .ok (x.after y)
      else if c.value = Byte.comma then
        match next c.rest with
        | .error fault => .error fault
        | .ok d =>
          if d.value = Byte.closeBracket then .error .illFormed
          else
            match field.read draft c.rest with
            | .error fault => .error fault
            | .ok x =>
              match fieldsFrom mayEndEarly fields false x.value x.rest with
              | .error fault => .error fault
              | .ok y => .ok (c.after (x.after y))
      else .error .illFormed

def reader (record : Record δ α) : Reader α := fun s =>
  match next s with
  | .error fault => .error fault
  | .ok c =>
    if c.value = Byte.openBracket ∨ c.value = Byte.openBrace then
      match
        (if c.value = Byte.openBracket then
          fieldsFrom record.mayEndEarly record.fields true record.blank c.rest
        else members literal record.entry record.blank c.rest) with
      | .error fault => .error fault
      | .ok x =>
        match record.finish x.value with
        | some a => .ok (c.after (x.map fun _ => a))
        | none => .error .mismatch
    else .error (mismatchAt s)

end Record

def variantName {α : Type} (named? : String → Option α) : Reader α := fun s =>
  match literal s with
  | .error fault => .error fault
  | .ok name =>
    match named? name.value with
    | some a => .ok (name.map fun _ => a)
    | none => .error .mismatch

/-- One of several named variants without content: its name, or an object with the name as its
only key and null as the value. -/
def variant {α : Type} (named? : String → Option α) : Reader α := fun s =>
  match next s with
  | .error fault => .error fault
  | .ok c =>
    if c.value = Byte.quote then variantName named? s
    else if c.value = Byte.openBrace then
      match variantName named? c.rest with
      | .error fault => .error fault
      | .ok x =>
        match afterColon nullValue x.rest with
        | .error fault => .error fault
        | .ok y =>
          match mark Byte.closeBrace y.rest with
          | .error fault => .error fault
          | .ok z =>
            .ok (c.after (x.after (y.after (z.map fun _ => x.value))))
    else .error .illFormed

end MessageInspector.Json
