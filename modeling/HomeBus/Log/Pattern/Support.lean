import HomeBus.Log.Pattern.Reader

/-!
# Patterns that can be matched

Patterns are matched without the tables of Unicode. In Unicode, which is the default, there is thus
no telling what a shorthand contains or which characters differ in case alone. Outside of it a
pattern is about bytes and must not match anything that is no text. The edges of words are known
outside of Unicode only; unlike the rest this shows when the pattern has been read, and has a fault
of its own.
-/

namespace HomeBus.Log.Pattern

/-- How a part of a pattern is understood. -/
structure Mode where
  /-- Capital and small letters are the same. -/
  caseless : Bool
  unicode : Bool
  deriving DecidableEq, Repr

namespace Mode

/-- How a pattern is understood before its first switch. -/
def start : Mode := ⟨false, true⟩

def switched (mode : Mode) (switches : List Switch) : Mode :=
  ⟨Pattern.switched .caseless switches mode.caseless,
    Pattern.switched .unicode switches mode.unicode⟩

/-- Whether a character is known: in Unicode by its cases, outside of it by its byte. -/
def knows (mode : Mode) (c : Literal) : Bool :=
  if mode.unicode then !mode.caseless else c.char.toNat < 128

mutual

/-- Whether the characters of a set are known. -/
def knowsSet (mode : Mode) : CharSet → Bool
  | .literal c => mode.knows c
  | .range first last => mode.knows first && mode.knows last
  | .shorthand negated => !mode.unicode && !negated
  | .named negated => if mode.unicode then !mode.caseless else !negated
  | .bracketed negated content => (mode.unicode || !negated) && mode.knowsSet content
  | .union items => mode.knowsSets items
  | .operation left right => mode.knowsSet left && mode.knowsSet right

def knowsSets (mode : Mode) : List CharSet → Bool
  | [] => true
  | item :: items => mode.knowsSet item && mode.knowsSets items

end

/-- Whether a leaf can be understood. -/
def understands (mode : Mode) : Leaf → Bool
  | .literal c => if mode.unicode then !mode.caseless else !(c.byte && 128 ≤ c.char.toNat)
  | .dot => mode.unicode
  | .edge | .boundary => true
  | .shorthand negated => !mode.unicode && !negated
  | .set set => mode.knowsSet set

end Mode

mutual

/-- The leaves of a pattern, each with its mode, and the mode behind the pattern. -/
def leaves (mode : Mode) : Pattern → List (Mode × Leaf) × Mode
  | .leaf l => ([(mode, l)], mode)
  | .switches given => ([], mode.switched given)
  | .repeated inner => leaves mode inner
  | .group given inner => ((leaves (mode.switched given) inner).1, mode)
  | .sequence parts | .choice parts => leavesOfAll mode parts

def leavesOfAll (mode : Mode) : List Pattern → List (Mode × Leaf) × Mode
  | [] => ([], mode)
  | part :: parts =>
    let (first, mode) := leaves mode part
    let (more, mode) := leavesOfAll mode parts
    (first ++ more, mode)

end

/-- Why a text is no pattern that can be matched. -/
inductive Fault where
  /-- It is no pattern, or cannot be understood without the tables of Unicode. -/
  | notUnderstood
  | boundaryInUnicode
  deriving DecidableEq, Repr

def Fault.message : Fault → String
  | .notUnderstood => "error building NFA"
  | .boundaryInUnicode =>
    "unsupported regex feature for DFAs: cannot build DFAs for regexes with Unicode word " ++
      "boundaries; switch to ASCII word boundaries, or heuristically enable Unicode word " ++
      "boundaries or use a different regex engine"

/-- Whether a leaf is an edge of a word as Unicode sees words. -/
def isUnicodeBoundary : Mode × Leaf → Bool
  | (mode, .boundary) => mode.unicode
  | _ => false

/-- What keeps a pattern from being matched. -/
def fault? (pattern : Pattern) : Option Fault :=
  let found := (pattern.leaves .start).1
  if found.all fun (mode, l) => mode.understands l then
    if found.any isUnicodeBoundary then some .boundaryInUnicode else none
  else some .notUnderstood

/-- What keeps a text from being matched as a pattern. -/
def textFault? (text : String) : Option Fault :=
  match ofText? text with
  | some pattern => pattern.fault?
  | none => some .notUnderstood

end HomeBus.Log.Pattern
