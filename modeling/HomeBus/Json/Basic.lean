import HomeBus.Dict
import HomeBus.Number.Binary64

/-!
# JSON values

A number is an integer that fits in 64 bits, signed or unsigned, or a finite double; the two are
different numbers even where they denote the same value. The members of an object are kept in
order of their keys, each key once: `Json.Canonical` says so, and every reader of this library
produces canonical values. `Json.depth` counts how deep arrays and objects are nested.
-/

namespace HomeBus

/-- A number of a JSON document. -/
inductive Json.Number where
  | int (value : Int) (range : -0x8000_0000_0000_0000 ≤ value ∧ value < 0x1_0000_0000_0000_0000)
  | double (value : Binary64) (finite : value.isFinite = true)
  deriving DecidableEq

namespace Json.Number

def zero : Number := .int 0 (by decide)

instance : Inhabited Number := ⟨zero⟩

/-- The integer as a number, if it fits. -/
def ofInt? (value : Int) : Option Number :=
  if range : -0x8000_0000_0000_0000 ≤ value ∧ value < 0x1_0000_0000_0000_0000 then
    some (.int value range)
  else none

/-- The double as a number, if it is finite. -/
def ofDouble? (value : Binary64) : Option Number :=
  if finite : value.isFinite = true then some (.double value finite) else none

/-- A signed 64-bit integer as a number. -/
def ofInt64 (value : Int64) : Number :=
  .int value.toInt ⟨by have := Int64.le_toInt value; omega, by have := Int64.toInt_lt value; omega⟩

/-- The value as a signed 64-bit integer; doubles are none. -/
def int64? : Number → Option Int64
  | .int value _ => if value < 0x8000_0000_0000_0000 then some (Int64.ofInt value) else none
  | .double _ _ => none

/-- The value as a double; integers are rounded to the nearest one. -/
def toDouble : Number → Binary64
  | .int value _ => Binary64.ofInt value
  | .double value _ => value

end Json.Number

/-- A JSON document. -/
inductive Json where
  | null
  | bool (value : Bool)
  | num (value : Json.Number)
  | str (value : String)
  | arr (items : List Json)
  | obj (members : List (String × Json))

namespace Json

instance : Inhabited Json := ⟨.null⟩

mutual

/-- How many arrays and objects lie one inside the other at most; a scalar has depth 0. -/
def depth : Json → Nat
  | .arr items => itemsDepth items + 1
  | .obj members => membersDepth members + 1
  | _ => 0

def itemsDepth : List Json → Nat
  | [] => 0
  | item :: rest => max (depth item) (itemsDepth rest)

def membersDepth : List (String × Json) → Nat
  | [] => 0
  | (_, value) :: rest => max (depth value) (membersDepth rest)

end

mutual

/-- Every object's members are in order of their keys, each key once. -/
def Canonical : Json → Prop
  | .arr items => CanonicalItems items
  | .obj members => Entries.Sorted members ∧ CanonicalMembers members
  | _ => True

def CanonicalItems : List Json → Prop
  | [] => True
  | item :: rest => Canonical item ∧ CanonicalItems rest

def CanonicalMembers : List (String × Json) → Prop
  | [] => True
  | (_, value) :: rest => Canonical value ∧ CanonicalMembers rest

end

theorem canonicalItems_iff : ∀ items : List Json,
    CanonicalItems items ↔ ∀ item ∈ items, Canonical item
  | [] => by simp [CanonicalItems]
  | _ :: rest => by simp [CanonicalItems, canonicalItems_iff rest]

theorem canonicalMembers_iff : ∀ members : List (String × Json),
    CanonicalMembers members ↔ ∀ member ∈ members, Canonical member.2
  | [] => by simp [CanonicalMembers]
  | _ :: rest => by
    rw [CanonicalMembers, canonicalMembers_iff rest, List.forall_mem_cons]

mutual

/-- Whether two documents are the same. -/
def same : Json → Json → Bool
  | .null, .null => true
  | .bool a, .bool b => a == b
  | .num a, .num b => decide (a = b)
  | .str a, .str b => a == b
  | .arr a, .arr b => sameItems a b
  | .obj a, .obj b => sameMembers a b
  | _, _ => false

def sameItems : List Json → List Json → Bool
  | [], [] => true
  | a :: as, b :: bs => same a b && sameItems as bs
  | _, _ => false

def sameMembers : List (String × Json) → List (String × Json) → Bool
  | [], [] => true
  | (k, a) :: as, (l, b) :: bs => k == l && same a b && sameMembers as bs
  | _, _ => false

end

mutual

theorem same_eq_true_iff : ∀ a b : Json, same a b = true ↔ a = b
  | .null, b => by cases b <;> simp [same]
  | .bool a, b => by cases b <;> simp [same]
  | .num a, b => by cases b <;> simp [same]
  | .str a, b => by cases b <;> simp [same]
  | .arr a, b => by
    cases b <;> simp [same]
    exact sameItems_eq_true_iff a _
  | .obj a, b => by
    cases b <;> simp [same]
    exact sameMembers_eq_true_iff a _

theorem sameItems_eq_true_iff : ∀ a b : List Json, sameItems a b = true ↔ a = b
  | [], b => by cases b <;> simp [sameItems]
  | a :: as, b => by
    cases b <;> simp [sameItems, same_eq_true_iff a, sameItems_eq_true_iff as]

theorem sameMembers_eq_true_iff :
    ∀ a b : List (String × Json), sameMembers a b = true ↔ a = b
  | [], b => by cases b <;> simp [sameMembers]
  | (k, a) :: as, b => by
    cases b <;> simp [sameMembers, same_eq_true_iff a, sameMembers_eq_true_iff as, Prod.ext_iff]

end

instance : DecidableEq Json := fun a b => decidable_of_iff _ (same_eq_true_iff a b)

/-- An object of a list of members; of members with one key the last one counts. -/
def ofMembers (members : List (String × Json)) : Json := .obj (Entries.ofList members)

end Json

end HomeBus
