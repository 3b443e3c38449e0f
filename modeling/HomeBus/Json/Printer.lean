import HomeBus.Json.Basic
import HomeBus.Number.Shortest
import HomeBus.Text.Utf8

/-!
# Writing JSON

A value is written without blanks. Integers are written in decimal. A double has the fewest digits
that identify it, at least one of them after the point, and from `10 ^ 16` up and below `10 ^ (-5)`
a signed power of ten instead. In strings only the quotation mark, the backslash and the control
characters below U+0020 are escaped.
-/

namespace HomeBus.Json

/-- The decimal digits of a natural number. -/
def natText (n : Nat) : List Char := Nat.toDigits 10 n

/-- An integer in decimal. -/
def intText (i : Int) : List Char := if i < 0 then '-' :: natText i.natAbs else natText i.natAbs

/-- A finite double. -/
def doubleText (d : Binary64) : List Char :=
  let decimal := d.shortest
  let text := if -5 ≤ decimal.leading ∧ decimal.leading < 16 then decimal.positional
    else decimal.scientific
  if d.isNegative then '-' :: text else text

def Number.text : Number → List Char
  | .int value _ => intText value
  | .double value _ => doubleText value

/-- A hexadecimal digit. -/
def hexDigit (n : Nat) : Char := if n < 10 then Char.ofNat (48 + n) else Char.ofNat (87 + n)

/-- A character inside a string. -/
def escapeChar (c : Char) : List Char :=
  if c = '"' then ['\\', '"']
  else if c = '\\' then ['\\', '\\']
  else if c = '\x08' then ['\\', 'b']
  else if c = '\x0c' then ['\\', 'f']
  else if c = '\n' then ['\\', 'n']
  else if c = '\r' then ['\\', 'r']
  else if c = '\t' then ['\\', 't']
  else if c.toNat < 0x20 then
    ['\\', 'u', '0', '0', hexDigit (c.toNat / 16), hexDigit (c.toNat % 16)]
  else [c]

/-- A string with its quotation marks. -/
def stringText (s : String) : List Char := '"' :: s.toList.flatMap escapeChar ++ ['"']

mutual

/-- The text of a document. -/
def render : Json → List Char
  | .null => ['n', 'u', 'l', 'l']
  | .bool true => ['t', 'r', 'u', 'e']
  | .bool false => ['f', 'a', 'l', 's', 'e']
  | .num n => n.text
  | .str s => stringText s
  | .arr items => '[' :: renderItems items ++ [']']
  | .obj members => '\x7b' :: renderMembers members ++ ['\x7d']

/-- The items of an array, with commas between them. -/
def renderItems : List Json → List Char
  | [] => []
  | item :: rest =>
    render item ++ match rest with
      | [] => []
      | next :: more => ',' :: renderItems (next :: more)

/-- The members of an object, with commas between them. -/
def renderMembers : List (String × Json) → List Char
  | [] => []
  | (key, value) :: rest =>
    stringText key ++ ':' :: render value ++ match rest with
      | [] => []
      | next :: more => ',' :: renderMembers (next :: more)

end

/-- The text of a document. -/
def text (value : Json) : String := String.ofList (render value)

/-- The bytes of a document. -/
def bytes (value : Json) : Bytes := Utf8.encode (render value)

end HomeBus.Json
