import HomeBus.Dict
import HomeBus.Toml.Basic

/-!
# Taking TOML values apart

Decoders read a value of a known shape out of a `Toml`. A `Section` is a table whose known keys all
have defaults: entries are taken in the order of the document, the first one that does not fit is
reported, and unknown keys are ignored. A section may also be an array, which holds the values of
the known keys in their order; missing ones keep their defaults and more of them are ignored.
-/

namespace HomeBus.Toml

/-- Reads an `α` out of a value. -/
abbrev Decoder (α : Type) := Toml → Except Toml.Error α

namespace Decoder

/-- Says that another type was expected. -/
def wrongType {α : Type} (value : Toml) (expected : String) : Except Toml.Error α :=
  .error (.mismatch (.wrongType value.found expected))

def text : Decoder String
  | .text value => .ok value
  | other => wrongType other "a string"

def bool : Decoder Bool
  | .bool value => .ok value
  | other => wrongType other "a boolean"

/-- A natural number up to `most`, in a range that is called `name`. -/
def natUpTo (most : Nat) (name : String) : Decoder Nat
  | .int value =>
    if 0 ≤ value ∧ value ≤ most then .ok value.toNat
    else .error (.mismatch (.wrongValue (.int value) name))
  | other => wrongType other name

def uint8 : Decoder UInt8 := fun value => (natUpTo 255 "u8" value).map Nat.toUInt8

def uint16 : Decoder UInt16 := fun value => (natUpTo 65535 "u16" value).map Nat.toUInt16

def uint64 : Decoder UInt64 := fun value =>
  (natUpTo (0x1_0000_0000_0000_0000 - 1) "u64" value).map Nat.toUInt64

/-! ## Names -/

/-- The name of a type of values. -/
def typeName : Toml → String
  | .text _ => "string"
  | .int _ => "integer"
  | .double _ => "float"
  | .bool _ => "boolean"
  | .moment => "datetime"
  | .array _ | .tables _ => "array"
  | .table _ => "table"

/-- Finds the choice of a name. -/
def choice {α : Type} (known : List (String × α)) (name : String) : Except Toml.Error α :=
  match Entries.get? name known with
  | some a => .ok a
  | none => .error (.mismatch (.unknownVariant name (known.map Prod.fst)))

/-- One of several names, given as a string or as a table with the name as its only key. -/
def oneOf {α : Type} (known : List (String × α)) : Decoder α
  | .text name => choice known name
  | .table [] => .error (.badVariant "wanted exactly 1 element, found 0 elements")
  | .table [(name, value)] => do
    let a ← choice known name
    match value with
    | .table [] | .array [] | .tables [] => return a
    | .tables _ => .error (.badVariant "expected empty array")
    | .table _ | .array _ => .error (.badVariant "expected empty table")
    | other => .error (.badVariant ("expected table, found " ++ typeName other))
  | .table (_ :: _ :: _) =>
    .error (.badVariant "wanted exactly 1 element, more than 1 element")
  | _ => .error (.mismatch .neitherTextNorTable)

end Decoder

/-- A known key of a table, whose value changes a `σ`. -/
structure Key (σ : Type) where
  name : String
  read : σ → Decoder σ

/-- A known key whose value `put` stores. -/
def Key.to {σ α : Type} (name : String) (decoder : Decoder α) (put : σ → α → σ) : Key σ :=
  ⟨name, fun state value => (decoder value).map (put state)⟩

/-- A table with known keys; their values change a `σ` that starts with all defaults. -/
structure Section (σ : Type) where
  /-- What the section is called where it was expected. -/
  title : String
  keys : List (Key σ)
  defaults : σ

namespace Section

variable {σ : Type} (s : Section σ)

/-- Takes one entry of a table into account. -/
def readEntry (state : σ) (entry : String × Toml) : Except Toml.Error σ :=
  match s.keys.find? fun key => key.name == entry.1 with
  | some key => key.read state entry.2
  | none => .ok state

/-- Takes the items of an array into account, which are the values of the given keys. -/
def readItems (state : σ) : List (Key σ) → List Toml → Except Toml.Error σ
  | [], _ | _, [] => .ok state
  | key :: keys, item :: items => do
    let state ← key.read state item
    readItems state keys items

/-- Reads the entries of a table. -/
def readTable (entries : List (String × Toml)) : Except Toml.Error σ :=
  entries.foldlM s.readEntry s.defaults

def decode : Decoder σ
  | .table entries => s.readTable entries
  | .array items | .tables items => readItems s.defaults s.keys items
  | .moment => .ok s.defaults
  | other => Decoder.wrongType other s.title

end Section

end HomeBus.Toml
