import HomeBus.Number.Binary64
import HomeBus.Text.Quoted

/-!
# Shape mismatches

Why a value that was read does not have the shape that was asked for. Documents of both formats,
JSON and TOML, are taken apart with these causes; they differ only in how they show a double.
-/

namespace HomeBus

/-- What stood where something else was expected. -/
inductive Found where
  | null
  | bool (value : Bool)
  | int (value : Int)
  | double (value : Binary64)
  | text (value : String)
  | list
  | table
  deriving DecidableEq

/-- A difference between a value and the shape asked for. -/
inductive Mismatch where
  | wrongType (found : Found) (expected : String)
  | wrongValue (found : Found) (expected : String)
  | wrongLength (length : Nat) (expected : String)
  | missingField (name : String)
  | duplicateField (name : String)
  | unknownVariant (name : String) (known : List String)
  | neitherTextNorTable
  deriving DecidableEq

namespace Found

/-- The found value in words; `double` writes a double. -/
def describe (double : Binary64 → String) : Found → String
  | .null => "null"
  | .bool value => "boolean `" ++ (if value then "true" else "false") ++ "`"
  | .int value => "integer `" ++ toString value ++ "`"
  | .double value => "floating point `" ++ double value ++ "`"
  | .text value => "string " ++ Text.quoted value
  | .list => "sequence"
  | .table => "map"

end Found

namespace Mismatch

/-- The names a reader could have meant. -/
def alternatives : List String → String
  | [a] => "`" ++ a ++ "`"
  | [a, b] => "`" ++ a ++ "` or `" ++ b ++ "`"
  | names => "one of " ++ ", ".intercalate (names.map fun name => "`" ++ name ++ "`")

/-- The mismatch in words; `double` writes a double. -/
def message (double : Binary64 → String) : Mismatch → String
  | .wrongType found expected => "invalid type: " ++ found.describe double ++ ", expected " ++ expected
  | .wrongValue found expected =>
    "invalid value: " ++ found.describe double ++ ", expected " ++ expected
  | .wrongLength length expected => "invalid length " ++ toString length ++ ", expected " ++ expected
  | .missingField name => "missing field `" ++ name ++ "`"
  | .duplicateField name => "duplicate field `" ++ name ++ "`"
  | .unknownVariant name known =>
    "unknown variant `" ++ name ++ "`, expected " ++ alternatives known
  | .neitherTextNorTable => "wanted string or table"

end Mismatch

end HomeBus
