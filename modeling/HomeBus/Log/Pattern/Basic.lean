/-!
# Patterns

A pattern is a regular expression that the value of a field has to match. Patterns are not matched
here; what is kept of one is what decides whether it can be matched at all. Which line end an anchor
looks for, how often a part repeats and what a group is called are forgotten.
-/

namespace HomeBus.Log

namespace Pattern

/-- What a switch inside a pattern is about. -/
inductive Flag where
  | caseless
  | manyLines
  | dotIsAll
  | shortest
  | unicode
  | carriageReturn
  | spaced
  deriving DecidableEq, Repr

/-- The letter of a flag, which in another case may be another flag. -/
def Flag.letter : Flag → Char
  | .caseless => 'i'
  | .manyLines => 'm'
  | .dotIsAll => 's'
  | .shortest => 'U'
  | .unicode => 'u'
  | .carriageReturn => 'R'
  | .spaced => 'x'

def Flag.all : List Flag :=
  [.caseless, .manyLines, .dotIsAll, .shortest, .unicode, .carriageReturn, .spaced]

def Flag.ofLetter? (c : Char) : Option Flag := Flag.all.find? fun flag => flag.letter = c

/-- Turns a flag on or off. -/
structure Switch where
  flag : Flag
  on : Bool
  deriving DecidableEq, Repr

/-- What switches leave a flag at; the last one about it counts. -/
def switched (flag : Flag) (switches : List Switch) (before : Bool) : Bool :=
  switches.foldl (fun on s => if s.flag = flag then s.on else on) before

/-- A character that stands for itself. -/
structure Literal where
  char : Char
  /-- It was written as two hexadecimal digits, and outside of Unicode is the byte of that number. -/
  byte : Bool
  deriving DecidableEq, Repr

/-- A part of a set of characters. -/
inductive CharSet where
  | literal (c : Literal)
  | range (first last : Literal)
  /-- Digits, blanks or the characters of words. -/
  | shorthand (negated : Bool)
  /-- A set with a name. -/
  | named (negated : Bool)
  /-- What stands between brackets. -/
  | bracketed (negated : Bool) (content : CharSet)
  /-- Everything that is in one of several parts; never of a single one. -/
  | union (items : List CharSet)
  /-- What two sets have in common, or in which they differ. -/
  | operation (left right : CharSet)

/-- The union of parts, which for a single part is the part. -/
def CharSet.ofItems : List CharSet → CharSet
  | [item] => item
  | items => .union items

/-- A part of a pattern that has no parts of its own, except for sets. -/
inductive Leaf where
  | literal (c : Literal)
  | dot
  /-- The start or the end of a line or of the text. -/
  | edge
  /-- An edge of a word, or any place that is none. -/
  | boundary
  /-- Digits, blanks or the characters of words. -/
  | shorthand (negated : Bool)
  /-- A set between brackets. -/
  | set (set : CharSet)

end Pattern

/-- A regular expression. -/
inductive Pattern where
  | leaf (leaf : Pattern.Leaf)
  /-- Switches that hold up to the end of the group they stand in. -/
  | switches (switches : List Pattern.Switch)
  | repeated (inner : Pattern)
  /-- A group, with switches that hold in it alone. -/
  | group (switches : List Pattern.Switch) (inner : Pattern)
  /-- Parts one behind the other; never a single one. -/
  | sequence (parts : List Pattern)
  /-- Parts of which one has to match; never a single one. -/
  | choice (parts : List Pattern)

namespace Pattern

/-- Parts one behind the other, which for a single part is the part. -/
def ofSequence : List Pattern → Pattern
  | [part] => part
  | parts => .sequence parts

/-- Parts of which one has to match, which for a single part is the part. -/
def ofChoice : List Pattern → Pattern
  | [part] => part
  | parts => .choice parts

/-! ## Nesting -/

mutual

/-- Whether a set has at most `room` sets one inside the other. -/
def CharSet.fits (room : Nat) : CharSet → Bool
  | .literal _ | .range .. | .shorthand _ | .named _ | .union [] => true
  | .bracketed _ content => room ≠ 0 && content.fits (room - 1)
  | .union (item :: items) => room ≠ 0 && item.fits (room - 1) && CharSet.allFit (room - 1) items
  | .operation left right => room ≠ 0 && left.fits (room - 1) && right.fits (room - 1)

def CharSet.allFit (room : Nat) : List CharSet → Bool
  | [] => true
  | item :: items => item.fits room && CharSet.allFit room items

end

mutual

/-- Whether a pattern has at most `room` parts one inside the other. -/
def fits (room : Nat) : Pattern → Bool
  | .leaf (.set set) => set.fits room
  | .leaf _ | .switches _ | .sequence [] | .choice [] => true
  | .repeated inner | .group _ inner => room ≠ 0 && inner.fits (room - 1)
  | .sequence (part :: parts) | .choice (part :: parts) =>
    room ≠ 0 && part.fits (room - 1) && allFit (room - 1) parts

def allFit (room : Nat) : List Pattern → Bool
  | [] => true
  | part :: parts => part.fits room && allFit room parts

end

/-- How many parts may stand one inside the other. -/
def mostNested : Nat := 250

end Pattern

end HomeBus.Log
