import HomeBus.Log.Pattern.Support
import HomeBus.Number.Shortest
import HomeBus.Number.Text
import HomeBus.Text.Alphanumeric
import HomeBus.Text.Blank
import HomeBus.Text.Split
import HomeBus.Text.Utf8

/-!
# Log directives

A directive sets how much is logged for a part of the program: `target[span{field=value}]=level`,
where every part but one may be missing. A directive that is only a word is a level if it names one
and a target otherwise. A target alone, or one without a level behind its `=`, logs everything.

Blanks around a directive do not count for its form, but the parts are cut from the directive as
it was written. A directive ends behind a word, a closing bracket or a level.
-/

namespace HomeBus.Log

/-- How much is logged, from nothing to everything. -/
inductive Level where
  | off
  | error
  | warn
  | info
  | debug
  | trace
  deriving DecidableEq, Repr

namespace Level

def all : List Level := [.off, .error, .warn, .info, .debug, .trace]

def name : Level → String
  | .off => "off"
  | .error => "error"
  | .warn => "warn"
  | .info => "info"
  | .debug => "debug"
  | .trace => "trace"

/-- The level of a name in any case, or of its place in `all`. -/
def ofText? (text : String) : Option Level :=
  match Number.nat? text.toList with
  | some n => all[n]?
  | none => all.find? fun level => level.name.toList == text.toList.map Char.toLower

end Level

/-- What a field is compared with; text that is nothing else is a pattern. -/
inductive Value where
  | bool (value : Bool)
  | double (value : Binary64)
  | nat (value : Nat)
  | int (value : Int)
  | pattern (text : String)
  deriving DecidableEq

namespace Value

/-- What a text says that is no pattern. -/
def plain? (text : String) : Option Value :=
  let cs := text.toList
  if text = "true" then some (.bool true)
  else if text = "false" then some (.bool false)
  else
    match (Number.nat? cs).filter (· < 0x1_0000_0000_0000_0000) with
    | some n => some (.nat n)
    | none =>
      match (Number.int? cs).filter fun i =>
          -0x8000_0000_0000_0000 ≤ i ∧ i < 0x8000_0000_0000_0000 with
      | some i => some (.int i)
      | none => (Number.double? cs).map .double

/-- The value of a text, which must be a pattern that can be matched if it is nothing else. -/
def ofText (text : String) : Except Pattern.Fault Value :=
  match plain? text with
  | some value => .ok value
  | none =>
    match Pattern.textFault? text with
    | some fault => .error fault
    | none => .ok (.pattern text)

/-- A double without a power of ten; a whole number has no point. -/
def doubleText (d : Binary64) : String :=
  let sign := if d.isNegative then "-" else ""
  if d.isNaN then "NaN"
  else if d.isInfinite then sign ++ "inf"
  else if 0 ≤ d.shortest.exponent then
    sign ++ String.ofList (d.shortest.digitChars ++ List.replicate d.shortest.exponent.toNat '0')
  else sign ++ String.ofList d.shortest.positional

def text : Value → String
  | .bool value => if value then "true" else "false"
  | .double value => doubleText value
  | .nat value => toString value
  | .int value => toString value
  | .pattern text => text

/-- The place of a kind of values among the others. -/
def rank : Value → Nat
  | .bool _ => 0
  | .double value => if value.isNaN then 2 else 1
  | .nat _ => 3
  | .int _ => 4
  | .pattern _ => 5

/-- Orders values of one kind by what they are. -/
def key : Value → Int × String
  | .bool value => (if value then 1 else 0, "")
  | .double value => (if value.isNegative then -(value.magnitude : Int) else value.magnitude, "")
  | .nat value => (value, "")
  | .int value => (value, "")
  | .pattern text => (0, text)

def order (a b : Value) : Ordering :=
  (compare a.rank b.rank).then <| (compare a.key.1 b.key.1).then <| compare a.key.2 b.key.2

end Value

/-- A field that must be there, and what it must be. -/
structure Field where
  name : String
  value : Option Value
  deriving DecidableEq

/-- Compares optional parts; a missing one comes first. -/
def optionOrder {α : Type} (order : α → α → Ordering) : Option α → Option α → Ordering
  | none, none => .eq
  | none, some _ => .lt
  | some _, none => .gt
  | some a, some b => order a b

namespace Field

/-- Reads a field of a directive: a name and what stands between the first two equals signs. -/
def ofText (text : String) : Except Pattern.Fault Field :=
  match Text.splitAt '=' text.toList with
  | [] => .ok ⟨"", none⟩
  | [name] => .ok ⟨String.ofList name, none⟩
  | name :: value :: _ => do
    let value ← Value.ofText (String.ofList value)
    return ⟨String.ofList name, some value⟩

def text (f : Field) : String :=
  match f.value with
  | none => f.name
  | some value => f.name ++ "=" ++ value.text

/-- Fields with a value come after those without. -/
def order (a b : Field) : Ordering :=
  (compare a.value.isSome b.value.isSome).then <| (compare a.name b.name).then <|
    optionOrder Value.order a.value b.value

end Field

/-- How much is logged where. -/
structure Directive where
  target : Option String
  span : Option String
  fields : List Field
  level : Level
  deriving DecidableEq

/-- Why a text is no directive. -/
inductive DirectiveFault where
  | malformed
  | unknownLevel
  /-- The value of a field is no pattern that can be matched. -/
  | badPattern (cause : Pattern.Fault)
  deriving DecidableEq

def DirectiveFault.message : DirectiveFault → String
  | .malformed => "invalid filter directive"
  | .unknownLevel =>
    "error parsing level filter: expected one of \"off\", \"error\", \"warn\", \"info\", " ++
      "\"debug\", \"trace\", or a number 0-5"
  | .badPattern cause => "invalid field filter: " ++ cause.message

namespace Directive

/-! ## Writing -/

def text (d : Directive) : String :=
  let fields :=
    if d.fields = [] then "" else "\x7b" ++ ",".intercalate (d.fields.map Field.text) ++ "\x7d"
  let where? := d.target.getD "" ++
    if d.span.isSome || d.fields ≠ [] then "[" ++ d.span.getD "" ++ fields ++ "]" else ""
  let mark := if d.target.isSome || d.span.isSome || d.fields ≠ [] then "=" else ""
  where? ++ mark ++ d.level.name

/-! ## Reading -/

/-- The text without its first bytes. -/
def dropBytes : Nat → List Char → List Char
  | _, [] => []
  | 0, cs => cs
  | n + 1, c :: cs => dropBytes (n + 1 - (Utf8.encodeChar c).length) cs

/-- As much of the text as the bytes hold. -/
def takeBytes : Nat → List Char → List Char
  | _, [] => []
  | 0, _ => []
  | n + 1, c :: cs => c :: takeBytes (n + 1 - (Utf8.encodeChar c).length) cs

/-- The part of a text between two byte positions. -/
def cut (text : List Char) (start stop : Nat) : String :=
  String.ofList (takeBytes (stop - start) (dropBytes start text))

/-- The part of a text from a byte position on. -/
def cutFrom (text : List Char) (start : Nat) : String := String.ofList (dropBytes start text)

/-- What is being read, and where it started. -/
inductive Part where
  | start
  | levelOrTarget (start : Nat)
  | span (start : Nat)
  | field (start : Nat)
  | afterFields
  | afterSpan
  | level (start : Nat)

/-- A directive while it is being read. -/
structure Reading where
  part : Part
  directive : Directive

/-- Whether a directive may start with a character other than `[`. -/
def startsWord (c : Char) : Bool :=
  c = '-' || c = ':' || c = '_' || Text.Alphanumeric.isAlphanumeric c

/-- Adds the field between two positions. -/
def addField (text : List Char) (d : Directive) (start stop : Nat) :
    Except DirectiveFault Directive :=
  let field := cut text start stop
  if field = "" then .error .malformed
  else
    match Field.ofText field with
    | .ok field => .ok { d with fields := d.fields ++ [field] }
    | .error cause => .error (.badPattern cause)

/-- Reads the character at a position of a directive that was written as `text`. -/
def Reading.step (text : List Char) (r : Reading) (position : Nat) (c : Char) :
    Except DirectiveFault Reading :=
  let d := r.directive
  match r.part with
  | .start =>
    if c = '[' then .ok ⟨.span (position + 1), d⟩
    else if startsWord c then .ok ⟨.levelOrTarget position, d⟩
    else .error .malformed
  | .levelOrTarget start =>
    if c = '=' then
      .ok ⟨.level (position + 1), { d with target := some (cut text start position) }⟩
    else if c = '[' then
      .ok ⟨.span (position + 1), { d with target := some (cut text start position) }⟩
    else .ok r
  | .span start =>
    let name := cut text start position
    if c = ']' then .ok ⟨.afterSpan, { d with span := some name }⟩
    else if c = '\x7b' then
      .ok ⟨.field (position + 1), { d with span := if name = "" then none else some name }⟩
    else .ok r
  | .field start =>
    if c = '\x7d' then (addField text d start position).map (⟨.afterFields, ·⟩)
    else if c = ',' then (addField text d start position).map (⟨.field (position + 1), ·⟩)
    else .ok r
  | .afterFields => if c = ']' then .ok ⟨.afterSpan, d⟩ else .error .malformed
  | .afterSpan => if c = '=' then .ok ⟨.level (position + 1), d⟩ else .error .malformed
  | .level _ => .ok r

/-- Reads characters from a position on. -/
def readChars (text : List Char) : Reading → Nat → List Char → Except DirectiveFault Reading
  | r, _, [] => .ok r
  | r, position, c :: cs => do
    let r ← r.step text position c
    readChars text r (position + (Utf8.encodeChar c).length) cs

/-- Reads what the directive ends with. -/
def Reading.finish (text : List Char) (r : Reading) : Except DirectiveFault Directive :=
  let d := r.directive
  match r.part with
  | .levelOrTarget start =>
    let word := cutFrom text start
    match Level.ofText? word with
    | some level => .ok { d with level, target := none }
    | none => .ok { d with level := .trace, target := some word }
  | .level start =>
    let word := cutFrom text start
    if word = "" then .ok { d with level := .trace }
    else
      match Level.ofText? word with
      | some level => .ok { d with level }
      | none => .error .unknownLevel
  | .afterSpan => .ok d
  | .start | .span _ | .field _ | .afterFields => .error .malformed

/-- The directive that a text describes. -/
def ofText (text : String) : Except DirectiveFault Directive := do
  let cs := text.toList
  let r ← readChars cs ⟨.start, ⟨none, none, [], .trace⟩⟩ 0 (Text.trim cs)
  r.finish cs

end Directive

end HomeBus.Log
