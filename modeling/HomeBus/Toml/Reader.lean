import HomeBus.Dict
import HomeBus.Toml.Scan

/-!
# TOML values and statements

A document is a list of statements: table headers and assignments. `statements` reads them;
`Toml.Document` builds the tables they describe.
-/

namespace HomeBus.Toml

open Scan

/-! ## Tables written on one line -/

/-- A table while its entries are being collected. -/
inductive Cell where
  | value (value : Toml)
  /-- A table that exists because a dotted key passed through it. -/
  | dotted (entries : List (String × Cell))

/-- Replaces the value at a key that is there, or appends one. -/
def setCell {α : Type} (key : String) (value : α) : List (String × α) → List (String × α)
  | [] => [(key, value)]
  | (k, v) :: rest => if k = key then (key, value) :: rest else (k, v) :: setCell key value rest

/-- Adds an assignment; a key that is there already must be a table made by dotted keys. -/
def addCell : List String → Toml → List (String × Cell) → Option (List (String × Cell))
  | [], _, _ => none
  | [key], value, cells =>
    match Entries.get? key cells with
    | none => some (cells ++ [(key, .value value)])
    | some _ => none
  | key :: path, value, cells =>
    match Entries.get? key cells with
    | none => (addCell path value []).map fun inner => cells ++ [(key, .dotted inner)]
    | some (.dotted inner) =>
      (addCell path value inner).map fun inner => setCell key (.dotted inner) cells
    | some (.value _) => none

mutual

def Cell.toToml : Cell → Toml
  | .value value => value
  | .dotted entries => .table (cellsToEntries entries)

def cellsToEntries : List (String × Cell) → List (String × Toml)
  | [] => []
  | (key, cell) :: rest => (key, cell.toToml) :: cellsToEntries rest

end

/-- The table of a list of assignments in order. -/
def inlineTable (assignments : List (List String × Toml)) : Option Toml := do
  let cells ← assignments.foldlM (fun cells assignment => addCell assignment.1 assignment.2 cells) []
  return .table (cellsToEntries cells)

/-! ## Values -/

/-- The items of an array after its opening bracket. -/
def arrayItems (item : Scanner Toml) : Nat → Scanner (List Toml)
  | 0, _ => none
  | rounds + 1, cs => do
    match ← skipLines (cs.length + 1) cs with
    | ']' :: rest => return ([], rest)
    | start =>
      let (head, rest) ← item start
      match ← skipLines (rest.length + 1) rest with
      | ',' :: rest =>
        let (tail, rest) ← arrayItems item rounds rest
        return (head :: tail, rest)
      | ']' :: rest => return ([head], rest)
      | _ => none

/-- A key, an equals sign and a value. -/
def assignment (value : Scanner Toml) : Scanner (List String × Toml) := fun cs => do
  let (path, rest) ← key depthLimit cs
  let rest ← exactly '=' rest
  let (v, rest) ← value (skipBlank rest)
  return ((path, v), rest)

/-- The assignments of a table on one line, after at least one of them is known to come. -/
def inlineAssignments (value : Scanner Toml) : Nat → Scanner (List (List String × Toml))
  | 0, _ => none
  | rounds + 1, cs => do
    let (head, rest) ← assignment value cs
    match skipBlank rest with
    | ',' :: rest =>
      let (tail, rest) ← inlineAssignments value rounds rest
      return (head :: tail, rest)
    | '\x7d' :: rest => return ([head], rest)
    | _ => none

/-- A number, a date or a time. -/
def numberOrMoment (cs : List Char) : Option (Toml × List Char) :=
  match moment? cs with
  | some rest => some (.moment, rest)
  | none =>
    match Scan.double cs with
    | some (value, rest) => some (.double value, rest)
    | none => (Scan.integer cs).map fun (value, rest) => (.int value, rest)

/-- A value with at most `room` arrays and tables one inside the other. -/
def value (room : Nat) : Scanner Toml := fun cs =>
  match cs with
  | [] => none
  | c :: rest =>
    if c = '"' || c = '\'' then (Scan.string cs).map fun (s, rest) => (.text s, rest)
    else if c = '[' then
      match room with
      | 0 => none
      | room + 1 =>
        (arrayItems (value room) (cs.length + 1) rest).map fun (items, rest) => (.array items, rest)
    else if c = '\x7b' then
      match room with
      | 0 => none
      | room + 1 =>
        match skipBlank rest with
        | '\x7d' :: rest => some (.table [], rest)
        | start => do
          let (assignments, rest) ← inlineAssignments (value room) (cs.length + 1) start
          let table ← inlineTable assignments
          return (table, rest)
    else if c = 't' then
      match rest with
      | 'r' :: 'u' :: 'e' :: rest => some (.bool true, rest)
      | _ => none
    else if c = 'f' then
      match rest with
      | 'a' :: 'l' :: 's' :: 'e' :: rest => some (.bool false, rest)
      | _ => none
    else numberOrMoment cs

/-! ## Statements -/

/-- A line of a document that says something. -/
inductive Statement where
  /-- `[path]` -/
  | table (path : List String)
  /-- `[[path]]` -/
  | item (path : List String)
  /-- `path = value` -/
  | assign (path : List String) (value : Toml)

/-- The statement at the front of a line that holds one. -/
def statement (cs : List Char) : Option (Statement × List Char) :=
  match cs with
  | '[' :: '[' :: rest => do
    let (path, rest) ← key depthLimit rest
    match rest with
    | ']' :: ']' :: rest => return (.item path, rest)
    | _ => none
  | '[' :: rest => do
    let (path, rest) ← key depthLimit rest
    let rest ← exactly ']' rest
    return (.table path, rest)
  | _ => do
    let ((path, v), rest) ← assignment (value depthLimit) cs
    return (.assign path v, rest)

/-- The statements of the lines of a text. -/
def lines : Nat → List Char → Option (List Statement)
  | 0, _ => none
  | rounds + 1, cs =>
    match skipBlank cs with
    | [] => some []
    | start =>
      match finishLine? start with
      | some rest => lines rounds rest
      | none => do
        let (head, rest) ← statement start
        let rest ← finishLine? rest
        let tail ← lines rounds rest
        return head :: tail

/-- The statements of a document; a byte order mark in front does not count. -/
def statements (text : String) : Option (List Statement) :=
  let cs := match text.toList with
    | '\uFEFF' :: rest => rest
    | cs => cs
  lines (cs.length + 1) cs

end HomeBus.Toml
