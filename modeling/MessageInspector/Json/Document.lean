import MessageInspector.Json.Literal
import MessageInspector.Json.Numeral
import MessageInspector.OrderedMap
/-!
# Reading JSON values

Values may nest 127 containers deep. In an object the last value of a key wins, at the place of
the key's first occurrence. A skipped value obeys the grammar only: any depth, any magnitude, any
string.
-/
namespace MessageInspector.Json

def largestDepth : Nat := 127

def wordValue {α : Type} (letters : List UInt8) (value : α) (s rest : List UInt8)
    (h : rest.length < s.length) : Except Fault (Taken α s) :=
  match hw : word letters rest with
  | .error fault => .error fault
  | .ok rest' => .ok ⟨value, rest', Nat.lt_of_le_of_lt (length_le_of_word hw) h⟩

def lettersOfNull : List UInt8 := [0x75, 0x6C, 0x6C]
def lettersOfTrue : List UInt8 := [0x72, 0x75, 0x65]
def lettersOfFalse : List UInt8 := [0x61, 0x6C, 0x73, 0x65]

/-- Read a value of the kind that its first byte announces. -/
def dispatch {α : Type} (atNull atTrue atFalse : α) (number string array object : Reader α) :
    Reader α := fun s =>
  match next s with
  | .error fault => .error fault
  | .ok c =>
    if c.value = 0x6E then wordValue lettersOfNull atNull s c.rest c.shorter
    else if c.value = 0x74 then wordValue lettersOfTrue atTrue s c.rest c.shorter
    else if c.value = 0x66 then wordValue lettersOfFalse atFalse s c.rest c.shorter
    else if c.value = Byte.minus ∨ Byte.isDigit c.value then number s
    else if c.value = Byte.quote then string s
    else if c.value = Byte.openBracket then
      match array c.rest with
      | .error fault => .error fault
      | .ok x => .ok (c.after x)
    else if c.value = Byte.openBrace then
      match object c.rest with
      | .error fault => .error fault
      | .ok x => .ok (c.after x)
    else .error .illFormed

/-- A container where none may stand any more. -/
def tooDeep {α : Type} : Reader α := fun _ => .error .illFormed

def valueEntry (value : Reader Value) (read : List (String × Value)) (key : String) :
    Reader (List (String × Value)) :=
  afterColon (value.map fun v => OrderedMap.put key v read)

/-- A value with at most `depth` containers inside one another. -/
def value : (depth : Nat) → Reader Value
  | 0 =>
    dispatch .null (.bool true) (.bool false) (numeral.map .number) (literal.map .string)
      tooDeep tooDeep
  | depth + 1 =>
    dispatch .null (.bool true) (.bool false) (numeral.map .number) (literal.map .string)
      ((items (value depth)).map .array)
      ((members literal (valueEntry (value depth)) []).map .object)

def read (bytes : List UInt8) : Except Fault Value := document (value largestDepth) bytes

def readText (s : String) : Except Fault Value := read (Utf8.ofString s)

def skipWithin : (depth : Nat) → Reader Unit
  | 0 => dispatch () () () skipNumeral skipLiteral tooDeep tooDeep
  | depth + 1 =>
    dispatch () () () skipNumeral skipLiteral
      ((items (skipWithin depth)).map fun _ => ())
      (members skipLiteral (fun _ _ => afterColon (skipWithin depth)) ())

/-- Pass over a value of any depth: a text cannot nest deeper than it is long. -/
def skip : Reader Unit := fun s => skipWithin s.length s

end MessageInspector.Json
