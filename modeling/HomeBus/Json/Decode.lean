import HomeBus.Json.Basic
import HomeBus.Mismatch

/-!
# Taking JSON values apart

Decoders read a value of a known shape out of a `Json`. Lists are read in order and objects in the
order of their keys, and the first part that does not fit is reported. Integers are accepted where
a double is asked for, never the other way round.
-/

namespace HomeBus.Json

/-- Reads an `α` out of a document. -/
abbrev Decoder (α : Type) := Json → Except Mismatch α

/-- What kind of value a document is. -/
def found : Json → Found
  | .null => .null
  | .bool value => .bool value
  | .num (.int value _) => .int value
  | .num (.double value _) => .double value
  | .str value => .text value
  | .arr _ => .list
  | .obj _ => .table

namespace Decoder

/-- The document itself. -/
def any : Decoder Json := .ok

def bool : Decoder Bool
  | .bool value => .ok value
  | other => .error (.wrongType other.found "a boolean")

/-- An integer in a range that is called `name`. -/
def intBetween (low high : Int) (name : String) : Decoder Int
  | .num (.int value _) =>
    if low ≤ value ∧ value ≤ high then .ok value else .error (.wrongValue (.int value) name)
  | other => .error (.wrongType other.found name)

def int64 : Decoder Int := intBetween (-0x8000_0000_0000_0000) (0x8000_0000_0000_0000 - 1) "i64"

def uint8 : Decoder Int := intBetween 0 255 "u8"

def double : Decoder Binary64
  | .num n => .ok n.toDouble
  | other => .error (.wrongType other.found "f64")

def text : Decoder String
  | .str value => .ok value
  | other => .error (.wrongType other.found "a string")

/-- What `decoder` reads, or null. -/
def nullOr {α : Type} (decoder : Decoder α) : Decoder (Option α)
  | .null => .ok none
  | value => (decoder value).map some

/-- Null, where nothing else is allowed. -/
def nullOnly : Decoder Unit
  | .null => .ok ()
  | other => .error (.wrongType other.found "unit")

def listOf {α : Type} (item : Decoder α) : Decoder (List α)
  | .arr items => items.mapM item
  | other => .error (.wrongType other.found "a sequence")

/-- An object whose values are read by `value`, in order of its keys. -/
def entriesOf {α : Type} (value : Decoder α) : Decoder (List (String × α))
  | .obj members => members.mapM fun member => (value member.2).map (member.1, ·)
  | other => .error (.wrongType other.found "a map")

def dictOf {α : Type} (value : Decoder α) : Decoder (Dict α) := fun document =>
  (entriesOf value document).map Dict.ofList

/-! ## Records of strings -/

/-- The values of the named fields in an array, in the order of the names. -/
def recordItems (shape : String) (taken : Nat) :
    List String → List Json → Except Mismatch (List String × List Json)
  | [], rest => .ok ([], rest)
  | _ :: _, [] => .error (.wrongLength taken shape)
  | _ :: names, item :: rest => do
    let head ← text item
    let (tail, rest) ← recordItems shape (taken + 1) names rest
    return (head :: tail, rest)

/-- Reads the members that are named fields; the others are ignored. -/
def recordMembers (names : List String) :
    List (String × Json) → Except Mismatch (List (String × String))
  | [] => .ok []
  | (key, value) :: rest => do
    if key ∈ names then
      let value ← text value
      let more ← recordMembers names rest
      return (key, value) :: more
    else recordMembers names rest

/-- The values of the named fields, all of which must be there. -/
def recordFields (fields : List (String × String)) : List String → Except Mismatch (List String)
  | [] => .ok []
  | name :: names => do
    let value ← match Entries.get? name fields with
      | some value => .ok value
      | none => .error (.missingField name)
    let more ← recordFields fields names
    return value :: more

/--
A record whose fields are all strings: an object with these members among others, or an array of
exactly their values. The result has the values in the order of `names`.
-/
def record (title : String) (names : List String) : Decoder (List String)
  | .obj members => do
    let fields ← recordMembers names members
    recordFields fields names
  | .arr items => do
    let shape := "struct " ++ title ++ " with " ++ toString names.length ++ " elements"
    let (values, rest) ← recordItems shape 0 names items
    match rest with
    | [] => return values
    | _ :: _ => .error (.wrongLength items.length "fewer elements in array")
  | other => .error (.wrongType other.found ("struct " ++ title))

end Decoder

end HomeBus.Json
