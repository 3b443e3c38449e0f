import HomeBus.Log.Pattern.Basic
import HomeBus.Number.Text
import HomeBus.Text.Alphanumeric
import HomeBus.Text.Blank
import HomeBus.Text.Utf8

/-!
# Reading patterns

A pattern is read from the left, with the groups and sets that are open kept on a stack. Where the
switch for spaced patterns is on, blanks and comments between the parts of a pattern do not count.

The text comes out of a directive, where a closing brace ends the field. So nothing in a pattern
ends what a brace opens, and a brace that would open something is refused.
-/

namespace HomeBus.Log.Pattern

/-- Reads an `α` off the front of a text. -/
abbrev Scanner (α : Type) := List Char → Option (α × List Char)

/-! ## What does not count -/

/-- Passes blanks and comments; the text starts inside of a comment or not. -/
def skipSpaced (comment : Bool) : List Char → List Char
  | [] => []
  | c :: rest =>
    if comment then skipSpaced (c ≠ '\n') rest
    else if Text.isBlank c then skipSpaced false rest
    else if c = '#' then skipSpaced true rest
    else c :: rest

/-- Passes what does not count. -/
def skip (spaced : Bool) (cs : List Char) : List Char := if spaced then skipSpaced false cs else cs

/-! ## Escapes -/

/-- What a character or an escape stands for. -/
inductive Atom where
  | literal (c : Literal)
  | edge
  | boundary
  | shorthand (negated : Bool)

def Atom.leaf : Atom → Leaf
  | .literal c => .literal c
  | .edge => .edge
  | .boundary => .boundary
  | .shorthand negated => .shorthand negated

/-- The part of a set that an atom is. -/
def Atom.item? : Atom → Option CharSet
  | .literal c => some (.literal c)
  | .shorthand negated => some (.shorthand negated)
  | _ => none

/-- The value of a fixed number of hexadecimal digits. -/
def hexDigits (spaced : Bool) : Nat → Nat → Scanner Nat
  | 0, value, cs => some (value, cs)
  | count + 1, value, cs =>
    match skip spaced cs with
    | [] => none
    | c :: rest =>
      match Number.hexValue? c with
      | some digit => hexDigits spaced count (value * 16 + digit) rest
      | none => none

/-- A character given by its number. -/
def numbered (spaced : Bool) (count : Nat) : Scanner Atom := fun cs => do
  let (value, rest) ← hexDigits spaced count 0 cs
  if Utf8.isScalar value then some (.literal ⟨Char.ofNat value, count = 2⟩, rest) else none

/-- An escape after its backslash. Every sign may be escaped, but not every letter or digit. -/
def escape (spaced : Bool) : Scanner Atom
  | 'x' :: rest => numbered spaced 2 rest
  | 'u' :: rest => numbered spaced 4 rest
  | 'U' :: rest => numbered spaced 8 rest
  | 'd' :: rest | 's' :: rest | 'w' :: rest => some (.shorthand false, rest)
  | 'D' :: rest | 'S' :: rest | 'W' :: rest => some (.shorthand true, rest)
  | 'A' :: rest | 'z' :: rest => some (.edge, rest)
  | 'b' :: '\x7b' :: _ => none
  | 'b' :: rest | 'B' :: rest | '<' :: rest | '>' :: rest => some (.boundary, rest)
  | 'a' :: rest => some (.literal ⟨'\x07', false⟩, rest)
  | 'f' :: rest => some (.literal ⟨'\x0c', false⟩, rest)
  | 't' :: rest => some (.literal ⟨'\t', false⟩, rest)
  | 'n' :: rest => some (.literal ⟨'\n', false⟩, rest)
  | 'r' :: rest => some (.literal ⟨'\r', false⟩, rest)
  | 'v' :: rest => some (.literal ⟨'\x0b', false⟩, rest)
  | c :: rest =>
    if c.toNat < 128 && !c.isAlphanum then some (.literal ⟨c, false⟩, rest) else none
  | [] => none

/-! ## Sets -/

/-- The names of sets. -/
def setNames : List String :=
  ["alnum", "alpha", "ascii", "blank", "cntrl", "digit", "graph", "lower", "print", "punct",
    "space", "upper", "word", "xdigit"]

/-- A name of a set between colons, and the bracket behind it. -/
def named? : Scanner CharSet
  | ':' :: cs =>
    let (negated, cs) := match cs with
      | '^' :: cs => (true, cs)
      | cs => (false, cs)
    match cs.dropWhile (· ≠ ':') with
    | ':' :: ']' :: rest =>
      if setNames.contains (String.ofList (cs.takeWhile (· ≠ ':'))) then
        some (.named negated, rest)
      else none
    | _ => none
  | _ => none

/-- One end of a range, or the only character of an item. -/
def setAtom (spaced : Bool) : Scanner Atom
  | [] => none
  | '\\' :: rest => escape spaced rest
  | c :: rest => some (.literal ⟨c, false⟩, rest)

/--
The next character after a hyphen. Of a comment only its mark is passed over, so that the answer may
lie inside the comment.
-/
def afterHyphen? (spaced : Bool) (cs : List Char) : Option Char :=
  if spaced then
    match cs.dropWhile Text.isBlank with
    | '#' :: rest => (rest.dropWhile Text.isBlank).head?
    | rest => rest.head?
  else cs.head?

/-- A character, a shorthand or a range; a hyphen before a bracket or another hyphen makes none. -/
def setItem (spaced : Bool) : Scanner CharSet := fun cs => do
  let (first, rest) ← setAtom spaced cs
  let rest := skip spaced rest
  match rest with
  | '-' :: after =>
    if afterHyphen? spaced after = some ']' ∨ afterHyphen? spaced after = some '-' then
      return (← first.item?, rest)
    else
      let (last, rest) ← setAtom spaced (skip spaced after)
      match first, last with
      | .literal first, .literal last =>
        if first.char ≤ last.char then some (.range first last, rest) else none
      | _, _ => none
  | rest => return (← first.item?, rest)

/-- A set while it is being read. -/
structure OpenSet where
  negated : Bool
  /-- What stands before the last operator. -/
  left : Option CharSet
  /-- What stands behind the last operator, the last item first. -/
  items : List CharSet

namespace OpenSet

def start (negated : Bool) : OpenSet := ⟨negated, none, []⟩

def add (s : OpenSet) (item : CharSet) : OpenSet := { s with items := item :: s.items }

/-- What was read up to here. Operators hold from left to right. -/
def content (s : OpenSet) : CharSet :=
  let right := CharSet.ofItems s.items.reverse
  match s.left with
  | none => right
  | some left => .operation left right

/-- Starts the right side of an operator. -/
def operator (s : OpenSet) : OpenSet := ⟨s.negated, some s.content, []⟩

def close (s : OpenSet) : CharSet := .bracketed s.negated s.content

end OpenSet

/-- The mark of a negated set behind its bracket. -/
def setStart (spaced : Bool) (cs : List Char) : OpenSet × List Char :=
  match skip spaced cs with
  | '^' :: rest => (.start true, rest)
  | rest => (.start false, rest)

/--
The rest of a set, inside of the sets `outer`. While `fresh`, only hyphens were read: there a hyphen
stands for itself, and so does a bracket that is the first character.
-/
def setRest (spaced : Bool) : Nat → Bool → OpenSet → List OpenSet → Scanner CharSet
  | 0, _, _, _, _ => none
  | rounds + 1, fresh, s, outer, cs =>
    let next (item : CharSet) (rest : List Char) :=
      setRest spaced rounds false (s.add item) outer rest
    match skip spaced cs with
    | '[' :: rest =>
      match named? rest with
      | some (item, rest) => next item rest
      | none =>
        let (inner, rest) := setStart spaced rest
        setRest spaced rounds true inner (s :: outer) rest
    | '-' :: rest =>
      if fresh then setRest spaced rounds true (s.add (.literal ⟨'-', false⟩)) outer rest
      else
        match rest with
        | '-' :: rest => setRest spaced rounds false s.operator outer rest
        | _ => do
          let (item, rest) ← setItem spaced ('-' :: rest)
          next item rest
    | ']' :: rest =>
      if fresh && s.items.isEmpty then next (.literal ⟨']', false⟩) rest
      else
        match outer with
        | [] => some (s.close, rest)
        | around :: outer => setRest spaced rounds false (around.add s.close) outer rest
    | '&' :: '&' :: rest | '~' :: '~' :: rest => setRest spaced rounds false s.operator outer rest
    | cs => do
      let (item, rest) ← setItem spaced cs
      next item rest

/-- A set behind its opening bracket. -/
def set (spaced : Bool) : Scanner CharSet := fun cs =>
  let (s, rest) := setStart spaced cs
  setRest spaced (rest.length + 1) true s [] rest

/-! ## Groups -/

/-- Reads switches up to the colon or the parenthesis behind them, which is returned too. -/
def readSwitches (on : Bool) (before : List Switch) : Scanner (List Switch × Char)
  | [] => none
  | c :: rest =>
    if c = ':' ∨ c = ')' then some ((before, c), rest)
    else if c = '-' then
      if on && rest.head? ≠ some ':' && rest.head? ≠ some ')' then readSwitches false before rest
      else none
    else
      match Flag.ofLetter? c with
      | none => none
      | some flag =>
        if before.any fun s => s.flag = flag then none
        else readSwitches on (before ++ [⟨flag, on⟩]) rest

/-- Whether a character may be the first one of a name. -/
def startsName (c : Char) : Bool := c = '_' || Text.Alphanumeric.isLetter c

/-- Whether a character may stand in a name. -/
def continuesName (c : Char) : Bool :=
  c = '_' || c = '.' || c = '[' || c = ']' || Text.Alphanumeric.isAlphanumeric c

/-- The name of a group up to its closing bracket. -/
def readName : Scanner String := fun cs =>
  match cs.takeWhile (· ≠ '>'), cs.dropWhile (· ≠ '>') with
  | first :: more, _ :: rest =>
    if startsName first && more.all continuesName then some (String.ofList (first :: more), rest)
    else none
  | _, _ => none

/-- What a parenthesis opens. -/
inductive Opening where
  | group (name : Option String) (switches : List Switch)
  /-- Switches for the rest of the group around them. -/
  | switches (switches : List Switch)

/-- What stands behind an opening parenthesis, before the content of the group. -/
def opening : Scanner Opening
  | '?' :: 'P' :: '<' :: rest | '?' :: '<' :: rest =>
    (readName rest).map fun (name, rest) => (.group (some name) [], rest)
  | '?' :: rest =>
    match readSwitches true [] rest with
    | some ((found, last), rest) =>
      if last = ':' then some (.group none found, rest)
      else if found = [] then none
      else some (.switches found, rest)
    | none => none
  | rest => some (.group none [], rest)

/-! ## Patterns -/

/-- A group that is open, and what stands before it in the group around it. -/
structure OpenGroup where
  switches : List Switch
  /-- Whether blanks and comments count for nothing behind the group. -/
  spaced : Bool
  choices : List Pattern
  parts : List Pattern

/-- A pattern while it is being read; the last parts and choices stand first. -/
structure Reading where
  /-- Blanks and comments count for nothing. -/
  spaced : Bool
  /-- The names of groups. -/
  names : List String
  /-- The groups that are open, the innermost first. -/
  groups : List OpenGroup
  /-- The finished choices of the innermost group. -/
  choices : List Pattern
  /-- The parts of the choice that is being read. -/
  parts : List Pattern

namespace Reading

def start : Reading := ⟨false, [], [], [], []⟩

def add (r : Reading) (part : Pattern) : Reading := { r with parts := part :: r.parts }

/-- The sequence that is being read. -/
def current (r : Reading) : Pattern := ofSequence r.parts.reverse

/-- Everything that was read in the innermost group. -/
def content (r : Reading) : Pattern := ofChoice (r.current :: r.choices).reverse

/-- Starts another choice. -/
def choice (r : Reading) : Reading := { r with choices := r.current :: r.choices, parts := [] }

/-- Takes account of a parenthesis and what stands right behind it. -/
def openGroup (r : Reading) : Opening → Option Reading
  | .switches given =>
    some { r.add (.switches given) with spaced := switched .spaced given r.spaced }
  | .group name given =>
    if name.any r.names.contains then none
    else
      some {
        spaced := switched .spaced given r.spaced
        names := name.toList ++ r.names
        groups := ⟨given, r.spaced, r.choices, r.parts⟩ :: r.groups
        choices := []
        parts := [] }

def closeGroup (r : Reading) : Option Reading :=
  match r.groups with
  | [] => none
  | g :: groups =>
    some ⟨g.spaced, r.names, groups, g.choices, .group g.switches r.content :: g.parts⟩

/-- Repeats the last part. -/
def repeat? (r : Reading) : Option Reading :=
  match r.parts with
  | [] | .switches _ :: _ => none
  | part :: parts => some { r with parts := .repeated part :: parts }

/-- The whole pattern. -/
def finish (r : Reading) : Option Pattern := if r.groups.isEmpty then some r.content else none

/-- Reads on at a character. -/
def step (r : Reading) (c : Char) (rest : List Char) : Option (Reading × List Char) :=
  match c with
  | '(' => do
    let (opening, rest) ← opening (skip r.spaced rest)
    return (← r.openGroup opening, rest)
  | ')' => r.closeGroup.map (·, rest)
  | '|' => some (r.choice, rest)
  | '[' => (set r.spaced rest).map fun (set, rest) => (r.add (.leaf (.set set)), rest)
  | '?' | '*' | '+' =>
    let rest := match rest with
      | '?' :: rest => rest
      | rest => rest
    r.repeat?.map (·, rest)
  | '\x7b' => none
  | '\\' => (escape r.spaced rest).map fun (atom, rest) => (r.add (.leaf atom.leaf), rest)
  | '.' => some (r.add (.leaf .dot), rest)
  | '^' | '$' => some (r.add (.leaf .edge), rest)
  | c => some (r.add (.leaf (.literal ⟨c, false⟩)), rest)

/-- Reads up to the end. -/
def steps : Nat → Reading → List Char → Option Pattern
  | 0, _, _ => none
  | rounds + 1, r, cs =>
    match skip r.spaced cs with
    | [] => r.finish
    | c :: rest =>
      match r.step c rest with
      | some (r, rest) => steps rounds r rest
      | none => none

end Reading

/-- The pattern that a text spells. -/
def ofText? (text : String) : Option Pattern :=
  let cs := text.toList
  (Reading.start.steps (cs.length + 1) cs).filter (fits mostNested)

end HomeBus.Log.Pattern
