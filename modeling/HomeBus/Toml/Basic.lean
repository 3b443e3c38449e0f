import HomeBus.Mismatch
import HomeBus.Number.Shortest

/-!
# TOML values

A table keeps its entries in the order in which the document first names them, each key once. The
tables of an array that is spelled with headers are told apart from those of an array in brackets.
Whether two values are equal is decided by `Toml.same`.
-/

namespace HomeBus

/-- A value of a TOML document. -/
inductive Toml where
  | text (value : String)
  | int (value : Int)
  | double (value : Binary64)
  | bool (value : Bool)
  /-- A date, a time or both; only its being one matters here. -/
  | moment
  | array (items : List Toml)
  /-- An array whose items are tables with headers of their own. -/
  | tables (items : List Toml)
  | table (entries : List (String × Toml))

namespace Toml

instance : Inhabited Toml := ⟨.bool false⟩

mutual

/-- Whether two values are the same. -/
def same : Toml → Toml → Bool
  | .text a, .text b => a == b
  | .int a, .int b => a == b
  | .double a, .double b => a == b
  | .bool a, .bool b => a == b
  | .moment, .moment => true
  | .array a, .array b | .tables a, .tables b => sameItems a b
  | .table a, .table b => sameEntries a b
  | _, _ => false

def sameItems : List Toml → List Toml → Bool
  | [], [] => true
  | a :: as, b :: bs => same a b && sameItems as bs
  | _, _ => false

def sameEntries : List (String × Toml) → List (String × Toml) → Bool
  | [], [] => true
  | (k, a) :: as, (l, b) :: bs => k == l && same a b && sameEntries as bs
  | _, _ => false

end

mutual

theorem same_eq_true_iff : ∀ a b : Toml, same a b = true ↔ a = b
  | .text _, b | .int _, b | .double _, b | .bool _, b | .moment, b => by cases b <;> simp [same]
  | .array a, b | .tables a, b => by cases b <;> simp [same, sameItems_eq_true_iff a]
  | .table a, b => by cases b <;> simp [same, sameEntries_eq_true_iff a]

theorem sameItems_eq_true_iff : ∀ a b : List Toml, sameItems a b = true ↔ a = b
  | [], b => by cases b <;> simp [sameItems]
  | a :: as, b => by
    cases b <;> simp [sameItems, same_eq_true_iff a, sameItems_eq_true_iff as]

theorem sameEntries_eq_true_iff :
    ∀ a b : List (String × Toml), sameEntries a b = true ↔ a = b
  | [], b => by cases b <;> simp [sameEntries]
  | (k, a) :: as, b => by
    cases b <;> simp [sameEntries, same_eq_true_iff a, sameEntries_eq_true_iff as, Prod.ext_iff]

end

instance : DecidableEq Toml := fun a b => decidable_of_iff _ (same_eq_true_iff a b)

/-- What is wrong with a document: it is no TOML, or it does not have the shape asked for. -/
inductive Error where
  | malformed
  | mismatch (cause : Mismatch)
  /-- A table that stands for a name must have one entry, and an empty table in it. -/
  | badVariant (reason : String)
  deriving DecidableEq

/-- A double in full, without a power of ten. -/
def doubleText (d : Binary64) : String :=
  let sign := if d.isNegative then "-" else ""
  if d.isNaN then "NaN"
  else if d.isInfinite then sign ++ "inf"
  else sign ++ String.ofList d.shortest.positional

/-- The reason in words. -/
def Error.message : Error → String
  | .malformed => "not a TOML document"
  | .mismatch cause => cause.message doubleText
  | .badVariant reason => reason

/-- What kind of value this is. A date is taken apart like a table. -/
def found : Toml → Found
  | .text value => .text value
  | .int value => .int value
  | .double value => .double value
  | .bool value => .bool value
  | .moment => .table
  | .array _ | .tables _ => .list
  | .table _ => .table

end Toml

end HomeBus
