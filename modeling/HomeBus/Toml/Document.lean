import HomeBus.Dict
import HomeBus.Toml.Reader

/-!
# TOML documents

Builds the tables that the statements of a document describe. A table is declared by its header
once; tables on the way to it come into being and may be declared later. A dotted key makes tables
too, which only dotted keys below the same header may extend.
-/

namespace HomeBus.Toml

/-- How a table came into being. -/
structure Origin where
  /-- No header declared it yet. -/
  implicit : Bool
  /-- A dotted key made it. -/
  dotted : Bool

/-- A part of a document that is being built. -/
inductive Node where
  | value (value : Toml)
  | table (origin : Origin) (entries : List (String × Node))
  /-- The tables of an array of tables; the last one is open. -/
  | tables (items : List (List (String × Node)))

/-- What a table with an origin turns into, if that is allowed. -/
abbrev Change := Origin → List (String × Node) → Option (List (String × Node))

/--
Applies a change to the table at a path, making the tables on the way. With `dotted` the way is a
dotted key, which does not pass through tables that a header declared.
-/
def Change.at (change : Change) (dotted : Bool) : List String → Change
  | [], origin, entries => change origin entries
  | key :: path, _, entries =>
    match Entries.get? key entries with
    | none => do
      let inner ← Change.at change dotted path ⟨true, dotted⟩ []
      return entries ++ [(key, .table ⟨true, dotted⟩ inner)]
    | some (.value _) => none
    | some (.tables items) => do
      let last ← items.getLast?
      let inner ← Change.at change dotted path ⟨false, false⟩ last
      return setCell key (.tables (items.dropLast ++ [inner])) entries
    | some (.table origin inner) =>
      if dotted && !origin.implicit then none
      else do
        let inner ← Change.at change dotted path origin inner
        return setCell key (.table origin inner) entries

/-- Adds a value under a key that is free; `dottedPath` says that a dotted key led here. -/
def assignChange (key : String) (v : Toml) (dottedPath : Bool) : Change := fun origin entries =>
  if origin.dotted != dottedPath then none
  else
    match Entries.get? key entries with
    | some _ => none
    | none => some (entries ++ [(key, .value v)])

/-- Adds a table at the end of the array of tables under a key. -/
def pushChange (key : String) (table : List (String × Node)) : Change := fun _ entries =>
  match Entries.get? key entries with
  | none => some (entries ++ [(key, .tables [table])])
  | some (.tables items) => some (setCell key (.tables (items ++ [table])) entries)
  | some _ => none

/-- Puts a table that its header declared under a key. -/
def declareChange (key : String) (table : List (String × Node)) : Change := fun _ entries =>
  match Entries.get? key entries with
  | none => some (entries ++ [(key, .table ⟨false, false⟩ table)])
  | some (.table origin _) =>
    if origin.implicit then some (setCell key (.table ⟨false, false⟩ table) entries) else none
  | some _ => none

/-- Whether a header may declare an item of the array of tables under a key. -/
def itemChange (key : String) : Change := fun _ entries =>
  match Entries.get? key entries with
  | none => some (entries ++ [(key, .tables [])])
  | some (.tables _) => some entries
  | some _ => none

/-- Takes an undeclared table away from under a key, because its header follows. -/
def removeChange (key : String) : Change := fun _ entries =>
  match Entries.get? key entries with
  | none => some entries
  | some (.table origin _) =>
    if origin.implicit && !origin.dotted then some (entries.filter fun entry => entry.1 ≠ key)
    else none
  | some _ => none

/-- The entries of the table under a key, if it is one. -/
def childEntries (key : String) (entries : List (String × Node)) : List (String × Node) :=
  match Entries.get? key entries with
  | some (.table _ inner) => inner
  | _ => []

/-- The entries at a path; of an array of tables the last table counts. -/
def entriesAt : List String → List (String × Node) → List (String × Node)
  | [], entries => entries
  | key :: path, entries =>
    match Entries.get? key entries with
    | some (.table _ inner) => entriesAt path inner
    | some (.tables items) => entriesAt path (items.getLast?.getD [])
    | _ => []

/-- The header whose table is open. -/
inductive Heading where
  | root
  | table (parent : List String) (key : String)
  | item (parent : List String) (key : String)

/-- A document that is being built: what is finished, and the open table. -/
structure Builder where
  root : List (String × Node)
  heading : Heading
  open_ : List (String × Node)

namespace Builder

def start : Builder := ⟨[], .root, []⟩

def declared : Origin := ⟨false, false⟩

/-- Puts the open table to its place. -/
def close (b : Builder) : Option (List (String × Node)) :=
  match b.heading with
  | .root => some b.open_
  | .table parent key => (declareChange key b.open_).at false parent declared b.root
  | .item parent key => (pushChange key b.open_).at false parent declared b.root

/-- Splits a path before its last key. -/
def splitLast (path : List String) : Option (List String × String) :=
  path.getLast?.map fun key => (path.dropLast, key)

def step (b : Builder) : Statement → Option Builder
  | .assign path v => do
    let (parent, key) ← splitLast path
    let opened ← (assignChange key v !parent.isEmpty).at true parent declared b.open_
    return { b with open_ := opened }
  | .table path => do
    let root ← b.close
    let (parent, key) ← splitLast path
    let kept := childEntries key (entriesAt parent root)
    let root ← (removeChange key).at false parent declared root
    return ⟨root, .table parent key, kept⟩
  | .item path => do
    let root ← b.close
    let (parent, key) ← splitLast path
    let root ← (itemChange key).at false parent declared root
    return ⟨root, .item parent key, []⟩

end Builder

mutual

def Node.toToml : Node → Toml
  | .value v => v
  | .table _ entries => .table (nodesToEntries entries)
  | .tables items => .tables (nodesToItems items)

def nodesToEntries : List (String × Node) → List (String × Toml)
  | [] => []
  | (key, node) :: rest => (key, node.toToml) :: nodesToEntries rest

def nodesToItems : List (List (String × Node)) → List Toml
  | [] => []
  | entries :: rest => .table (nodesToEntries entries) :: nodesToItems rest

end

/-- The entries of the table that a document describes. -/
def parse (text : String) : Except Error (List (String × Toml)) :=
  let root := do
    let statements ← statements text
    let b ← statements.foldlM Builder.step Builder.start
    b.close
  match root with
  | some root => .ok (nodesToEntries root)
  | none => .error .malformed

end HomeBus.Toml
