import HomeBus.Error

/-!
# Typed access to a message's value

Each accessor asks for the declared value type first and for the shape of the value second.
`decode` reads the value as anything, whatever the declared type is.
-/

namespace HomeBus.Message

/-- Refuses a message that declares another value type. Models `Message::expect_type`. -/
def expect (m : Message) (expected : ValueType) : Except Error Unit :=
  if m.valueType = expected then .ok () else .error (.valueType expected m.valueType)

/-- The value of a message with the declared type, as far as `read` finds one. Models what the
    accessors have in common, with `shape_error`. -/
def typed {α : Type} (m : Message) (expected : ValueType) (read : Json → Option α) :
    Except Error α := do
  m.expect expected
  match read m.value with
  | some a => return a
  | none => .error (.format (.wrongShape m.value expected))

/-- A text. Models `Message::string_value`. -/
def stringValue (m : Message) : Except Error String :=
  m.typed .string fun
    | .str s => some s
    | _ => none

/-- A truth value. Models `Message::bool_value`. -/
def boolValue (m : Message) : Except Error Bool :=
  m.typed .bool fun
    | .bool b => some b
    | _ => none

/-- An integer of 64 bits. Models `Message::int_value`. -/
def intValue (m : Message) : Except Error Int64 :=
  m.typed .int fun
    | .num n => n.int64?
    | _ => none

/-- Integers are doubles too. Models `Message::float_value`. -/
def floatValue (m : Message) : Except Error Binary64 :=
  m.typed .float fun
    | .num n => some n.toDouble
    | _ => none

/-- A dictionary of texts. Models `Message::str_map_value`. -/
def strMapValue (m : Message) : Except Error (Dict String) :=
  m.typed .strMap fun value => (Json.Decoder.dictOf Json.Decoder.text value).toOption

/-- A list of texts. Models `Message::str_array_value`. -/
def strArrayValue (m : Message) : Except Error (List String) :=
  m.typed .strArray fun value => (Json.Decoder.listOf Json.Decoder.text value).toOption

/-- The value read by a decoder. Models `Message::object_value`. -/
def decode {α : Type} (m : Message) (decoder : Json.Decoder α) : Except Error α :=
  match decoder m.value with
  | .ok a => .ok a
  | .error cause => .error (.json (.mismatch cause))

end HomeBus.Message
