import HomeBus.Json.Error

/-!
# Maps as objects

An object's keys are texts. A map whose keys are integers becomes an object with the keys in
decimal, in order of these texts; a map whose keys are pairs has no object, unless it is empty.
-/

namespace HomeBus.Json

/-- A signed 64-bit integer as a document. -/
def ofInt64 (value : Int64) : Json := .num (.ofInt64 value)

/-- The object of a map with integer keys; of entries with one key the last one counts. -/
def ofIntMap (entries : List (Int64 × Int64)) : Json :=
  ofMembers (entries.map fun entry => (toString entry.1.toInt, ofInt64 entry.2))

/-- The object of a map whose keys are pairs. -/
def ofPairSet (pairs : List (Int64 × Int64)) : Except Error Json :=
  if pairs = [] then .ok (.obj []) else .error (.malformed .keyNotText)

end HomeBus.Json
