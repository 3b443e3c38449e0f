import HomeBus.Json.Decode
import HomeBus.Json.Reader

/-!
# Value types

The tag that says which shape a message's value has. A tag is read from a string, or from an object
with the tag as its only key and null as its value.
-/

namespace HomeBus

/-- The declared shape of a message's value. -/
inductive ValueType where
  | string
  | int
  | float
  | bool
  | null
  | strArray
  | intArray
  | floatArray
  | boolArray
  | strMap
  | intMap
  | floatMap
  | boolMap
  | object
  deriving DecidableEq, Inhabited, Repr

namespace ValueType

/-- All value types. -/
def all : List ValueType :=
  [.string, .int, .float, .bool, .null, .strArray, .intArray, .floatArray, .boolArray, .strMap,
    .intMap, .floatMap, .boolMap, .object]

/-- The tag on the wire. Models `ValueType::as_str`. -/
def tag : ValueType → String
  | .string => "string"
  | .int => "int"
  | .float => "float"
  | .bool => "bool"
  | .null => "null"
  | .strArray => "str_array"
  | .intArray => "int_array"
  | .floatArray => "float_array"
  | .boolArray => "bool_array"
  | .strMap => "str_map"
  | .intMap => "int_map"
  | .floatMap => "float_map"
  | .boolMap => "bool_map"
  | .object => "object"

/-- The value type of a tag. -/
def ofTag? (text : String) : Option ValueType := all.find? fun t => t.tag == text

/-- The value type of a tag, which must be one of the known ones. -/
def ofTag (text : String) : Except Mismatch ValueType :=
  match ofTag? text with
  | some t => .ok t
  | none => .error (.unknownVariant text (all.map tag))

theorem ofTag?_tag (t : ValueType) : ofTag? t.tag = some t := by cases t <;> decide

/-- Reads a value type out of a document. -/
def decoder : Json.Decoder ValueType
  | .str text => ofTag text
  | .obj [(key, value)] => do
    let t ← ofTag key
    Json.Decoder.nullOnly value
    return t
  | .obj _ => .error (.wrongValue .table "map with a single key")
  | other => .error (.wrongType other.found "string or map")

/-- Both documents that stand for a value type are read as it. -/
theorem decoder_tag (t : ValueType) :
    decoder (.str t.tag) = .ok t ∧ decoder (.obj [(t.tag, .null)]) = .ok t := by
  simp [decoder, ofTag, ofTag?_tag, Json.Decoder.nullOnly, bind, Except.bind, pure, Except.pure]

open Json Json.Reader in
/-- Reads a value type off the front of a text. -/
def reader : Json.Reader ValueType := fun bytes =>
  match skipBlank bytes with
  | [] => malformed .endInValue
  | b :: rest =>
    if b = 0x22 then do
      let (name, rest) ← formed (Json.string rest)
      match ofTag name with
      | .ok t => return (t, rest)
      | .error cause => .error (.mismatch cause)
    else if b = 0x7B then
      match skipBlank rest with
      | [] => malformed .endInObject
      | b :: rest =>
        if b = 0x22 then do
          let (name, rest) ← formed (Json.string rest)
          match ofTag name with
          | .error cause => .error (.mismatch cause)
          | .ok t =>
            let rest ← colon rest
            let ((), rest) ← nullOnly rest
            match skipBlank rest with
            | [] => malformed .endInObject
            | b :: rest => if b = 0x7D then return (t, rest) else malformed .noValue
        else if b = 0x7D then malformed .noValue
        else malformed .keyNotText
    else malformed .noValue

end ValueType

end HomeBus
