import HomeBus.Json.Scan

/-!
# Reading JSON

Readers take what they ask for off the front of a byte list and stop at the first problem, so of
two faults the earlier one is reported.

* `Reader.value` reads any document of limited depth into a `Json`; `parse` does so for a whole text.
* `Reader.text`, `Reader.nullOr`, `Reader.listOf` and `Reader.membersOf` read documents of a known
  shape without building a `Json` first.
* `Reader.skipValue` passes over a document of any depth with a check of its form alone.
* `Reader.document` runs a reader over a whole text.
-/

namespace HomeBus.Json

/-- Reads an `α` off the front of a byte list. -/
abbrev Reader (α : Type) := Bytes → Except Error (α × Bytes)

/-- How many arrays and objects a document may have one inside the other. -/
def maxDepth : Nat := 127

def malformed {α : Type} (fault : Malformed) : Except Error α := .error (.malformed fault)

/-- A step of reading that can only fail on the form of the text. -/
def formed {α : Type} : Except Malformed α → Except Error α
  | .ok a => .ok a
  | .error fault => malformed fault

namespace Reader

/-- What kind of value stands at the front; its form is checked first if it is a scalar. -/
def foundAt : Bytes → Except Malformed Found
  | [] => .error .noValue
  | b :: rest =>
    if b = 0x6E then (keyword nullTail rest).map fun _ => .null
    else if b = 0x74 then (keyword trueTail rest).map fun _ => .bool true
    else if b = 0x66 then (keyword falseTail rest).map fun _ => .bool false
    else if b = 0x22 then (string rest).map fun read => .text read.1
    else if b = 0x5B then .ok .list
    else if b = 0x7B then .ok .table
    else if b = 0x2D || isDigit b then
      (if b = 0x2D then number true rest else number false (b :: rest)).map fun read =>
        match read.1 with
        | .int value _ => .int value
        | .double value _ => .double value
    else .error .noValue

/-- Refuses the value at the front because something else was expected. -/
def refuse {α : Type} (expected : String) (bytes : Bytes) : Except Error α :=
  match foundAt bytes with
  | .ok found => .error (.mismatch (.wrongType found expected))
  | .error fault => malformed fault

/-! ## Lists and objects -/

/-- Passes the comma before an item that is not the first one. -/
def listComma (b : UInt8) (rest : Bytes) : Except Error Bytes :=
  if b = 0x2C then
    match skipBlank rest with
    | [] => malformed .endInValue
    | c :: rest => if c = 0x5D then malformed .trailingComma else .ok (c :: rest)
  else malformed .noListEnd

/--
The items up to the closing bracket. Every item takes at least one byte, so as many rounds as there
are bytes suffice.
-/
def listItems {α : Type} (item : Reader α) (first : Bool) : Nat → Reader (List α)
  | 0, _ => malformed .endInList
  | rounds + 1, bytes =>
    match skipBlank bytes with
    | [] => malformed .endInList
    | b :: rest =>
      if b = 0x5D then .ok ([], rest)
      else do
        let start ← if first then .ok (b :: rest) else listComma b rest
        let (head, rest) ← item start
        let (tail, rest) ← listItems item false rounds rest
        return (head :: tail, rest)

/-- An array after its opening bracket. -/
def listOf {α : Type} (item : Reader α) : Reader (List α) := fun bytes =>
  listItems item true (bytes.length + 1) bytes

/-- Passes the comma before a member that is not the first one, up to the key's quotation mark. -/
def memberComma (b : UInt8) (rest : Bytes) : Except Error Bytes :=
  if b = 0x2C then
    match skipBlank rest with
    | [] => malformed .endInValue
    | c :: rest =>
      if c = 0x22 then .ok rest
      else if c = 0x7D then malformed .trailingComma
      else malformed .keyNotText
  else malformed .noObjectEnd

/-- Passes the quotation mark of the first member's key. -/
def firstKey (b : UInt8) (rest : Bytes) : Except Error Bytes :=
  if b = 0x22 then .ok rest else malformed .keyNotText

/-- Passes the colon between a key and its value. -/
def colon (bytes : Bytes) : Except Error Bytes :=
  match skipBlank bytes with
  | [] => malformed .endInObject
  | b :: rest => if b = 0x3A then .ok rest else malformed .noColon

/--
Folds `member` over the members up to the closing brace. It gets the key and reads on from the
colon, so that it can refuse a key before anything is asked of what follows.
-/
def foldMembers {σ : Type} (member : σ → String → Reader σ) (first : Bool) :
    Nat → σ → Reader σ
  | 0, _, _ => malformed .endInObject
  | rounds + 1, state, bytes =>
    match skipBlank bytes with
    | [] => malformed .endInObject
    | b :: rest =>
      if b = 0x7D then .ok (state, rest)
      else do
        let start ← if first then firstKey b rest else memberComma b rest
        let (key, rest) ← formed (string start)
        let (state, rest) ← member state key rest
        foldMembers member false rounds state rest

/-- An object after its opening brace, as the result of folding `member` over it. -/
def membersOf {σ : Type} (member : σ → String → Reader σ) (initial : σ) : Reader σ := fun bytes =>
  foldMembers member true (bytes.length + 1) initial bytes

/-- Adds a member read by `value`; a later member replaces an earlier one with its key. -/
def putMember {α : Type} (value : Reader α) (members : List (String × α)) (key : String) :
    Reader (List (String × α)) := fun bytes => do
  let rest ← colon bytes
  let (value, rest) ← value rest
  return (Entries.insert key value members, rest)

/-! ## Any document -/

/-- A keyword whose first letter was read, standing for a value. -/
def constant (tail : Bytes) (value : Json) : Reader Json := fun bytes => do
  let rest ← formed (keyword tail bytes)
  return (value, rest)

/-- A document with at most `room` arrays and objects one inside the other. -/
def value (room : Nat) : Reader Json := fun bytes =>
  match skipBlank bytes with
  | [] => malformed .endInValue
  | b :: rest =>
    if b = 0x6E then constant nullTail .null rest
    else if b = 0x74 then constant trueTail (.bool true) rest
    else if b = 0x66 then constant falseTail (.bool false) rest
    else if b = 0x2D then do
      let (n, rest) ← formed (number true rest)
      return (.num n, rest)
    else if isDigit b then do
      let (n, rest) ← formed (number false (b :: rest))
      return (.num n, rest)
    else if b = 0x22 then do
      let (s, rest) ← formed (string rest)
      return (.str s, rest)
    else if b = 0x5B then
      match room with
      | 0 => malformed .tooDeep
      | room + 1 => do
        let (items, rest) ← listOf (value room) rest
        return (.arr items, rest)
    else if b = 0x7B then
      match room with
      | 0 => malformed .tooDeep
      | room + 1 => do
        let (members, rest) ← membersOf (putMember (value room)) [] rest
        return (.obj members, rest)
    else malformed .noValue

/-! ## Documents of a known shape -/

/-- A string. -/
def text : Reader String := fun bytes =>
  match skipBlank bytes with
  | [] => malformed .endInValue
  | b :: rest => if b = 0x22 then formed (string rest) else refuse "a string" (b :: rest)

/-- What `reader` reads, or null. -/
def nullOr {α : Type} (reader : Reader α) : Reader (Option α) := fun bytes =>
  match skipBlank bytes with
  | [] => malformed .endInValue
  | b :: rest =>
    if b = 0x6E then do
      let rest ← formed (keyword nullTail rest)
      return (none, rest)
    else do
      let (a, rest) ← reader (b :: rest)
      return (some a, rest)

/-- Null, where nothing else is allowed. -/
def nullOnly : Reader Unit := fun bytes =>
  match skipBlank bytes with
  | [] => malformed .endInValue
  | b :: rest =>
    if b = 0x6E then do
      let rest ← formed (keyword nullTail rest)
      return ((), rest)
    else refuse "unit" (b :: rest)

/-- An array of strings. -/
def texts : Reader (List String) := fun bytes =>
  match skipBlank bytes with
  | [] => malformed .endInValue
  | b :: rest => if b = 0x5B then listOf text rest else refuse "a sequence" (b :: rest)

/-- An object of strings. -/
def textDict : Reader (Dict String) := fun bytes =>
  match skipBlank bytes with
  | [] => malformed .endInValue
  | b :: rest =>
    if b = 0x7B then
      membersOf (fun (dict : Dict String) key bytes => do
        let rest ← colon bytes
        let (value, rest) ← text rest
        return (dict.insert key value, rest)) Dict.empty rest
    else refuse "a map" (b :: rest)

/-! ## Skipping -/

/-- The brackets that are open around a skipped value. -/
inductive Bracket where
  | list
  | object
  deriving DecidableEq

namespace Bracket

def close : Bracket → UInt8
  | .list => 0x5D
  | .object => 0x7D

/-- The fault when something other than a comma or the closing bracket follows a value. -/
def noEnd : Bracket → Malformed
  | .list => .noListEnd
  | .object => .noObjectEnd

def endInside : Bracket → Malformed
  | .list => .endInList
  | .object => .endInObject

end Bracket

/-- Passes a key and its colon inside a skipped object. -/
def skipKey (bytes : Bytes) : Except Malformed Bytes :=
  match skipBlank bytes with
  | [] => .error .endInObject
  | b :: rest =>
    if b = 0x22 then
      match skipString rest with
      | .error fault => .error fault
      | .ok rest =>
        match skipBlank rest with
        | [] => .error .endInObject
        | b :: rest => if b = 0x3A then .ok rest else .error .noColon
    else .error .keyNotText

/-- Passes a scalar, or opens a bracket. -/
def skipStart (bytes : Bytes) : Except Malformed (Option Bracket × Bytes) :=
  match skipBlank bytes with
  | [] => .error .endInValue
  | b :: rest =>
    if b = 0x6E then (keyword nullTail rest).map fun rest => (none, rest)
    else if b = 0x74 then (keyword trueTail rest).map fun rest => (none, rest)
    else if b = 0x66 then (keyword falseTail rest).map fun rest => (none, rest)
    else if b = 0x2D then (skipNumber rest).map fun rest => (none, rest)
    else if isDigit b then (skipNumber (b :: rest)).map fun rest => (none, rest)
    else if b = 0x22 then (skipString rest).map fun rest => (none, rest)
    else if b = 0x5B then .ok (some .list, rest)
    else if b = 0x7B then .ok (some .object, rest)
    else .error .noValue

/-- Where a skipped document stands between two values. -/
inductive SkipState where
  /-- A value is next. -/
  | value
  /-- A bracket was just opened: its closing bracket or the first item is next. -/
  | opened
  /-- A value is complete: a comma or a closing bracket is next. -/
  | complete

/--
Passes the rest of a document with the given brackets open, innermost first. Every round takes at
least one byte or turns to a value that does, so twice as many rounds as there are bytes suffice.
-/
def skipRounds : Nat → SkipState → List Bracket → Bytes → Except Malformed Bytes
  | 0, _, _, _ => .error .endInValue
  | rounds + 1, .value, open_, bytes =>
    match skipStart bytes with
    | .error fault => .error fault
    | .ok (some bracket, rest) => skipRounds rounds .opened (bracket :: open_) rest
    | .ok (none, rest) => skipRounds rounds .complete open_ rest
  | _ + 1, .opened, [], bytes => .ok bytes
  | rounds + 1, .opened, bracket :: outer, bytes =>
    match skipBlank bytes with
    | [] => .error bracket.endInside
    | b :: rest =>
      if b = bracket.close then skipRounds rounds .complete outer rest
      else if bracket = .object then
        match skipKey (b :: rest) with
        | .error fault => .error fault
        | .ok rest => skipRounds rounds .value (bracket :: outer) rest
      else skipRounds rounds .value (bracket :: outer) (b :: rest)
  | _ + 1, .complete, [], bytes => .ok bytes
  | rounds + 1, .complete, bracket :: outer, bytes =>
    match skipBlank bytes with
    | [] => .error bracket.endInside
    | b :: rest =>
      if b = 0x2C then
        if bracket = .object then
          match skipKey rest with
          | .error fault => .error fault
          | .ok rest => skipRounds rounds .value (bracket :: outer) rest
        else skipRounds rounds .value (bracket :: outer) rest
      else if b = bracket.close then skipRounds rounds .complete outer rest
      else .error bracket.noEnd

/-- Passes a document of any depth with a check of its form alone. -/
def skipValue : Reader Unit := fun bytes => do
  let rest ← formed (skipRounds (2 * bytes.length + 2) .value [] bytes)
  return ((), rest)

/-! ## Whole texts -/

/-- Runs a reader over a whole text; only blanks may follow what it reads. -/
def document {α : Type} (reader : Reader α) (bytes : Bytes) : Except Error α := do
  let (a, rest) ← reader bytes
  match skipBlank rest with
  | [] => return a
  | _ :: _ => malformed .trailingCharacters

end Reader

/-- The document that a text holds. -/
def parse (bytes : Bytes) : Except Error Json := Reader.document (Reader.value maxDepth) bytes

end HomeBus.Json
