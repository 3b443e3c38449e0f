import HomeBus.Number.Binary64

/-!
# Numbers in settings

Numbers that stand alone in a text, without blanks around them. Digits are the ASCII ones, and any
number may have a sign; a natural number only a plus.
-/

namespace HomeBus.Number

/-- The number that decimal digits denote, each put behind the digits before it. -/
def ofDigits (digits : List Char) : Nat :=
  digits.foldl (fun n c => 10 * n + (c.toNat - '0'.toNat)) 0

/-- What a hexadecimal digit counts. -/
def hexValue? (c : Char) : Option Nat :=
  if '0' ≤ c && c ≤ '9' then some (c.toNat - 48)
  else if 'a' ≤ c && c ≤ 'f' then some (c.toNat - 87)
  else if 'A' ≤ c && c ≤ 'F' then some (c.toNat - 55)
  else none

/-- The number that a text of one or more digits denotes. -/
def digits? (cs : List Char) : Option Nat :=
  if cs ≠ [] ∧ cs.all Char.isDigit then some (ofDigits cs) else none

def nat? : List Char → Option Nat
  | '+' :: rest => digits? rest
  | cs => digits? cs

def int? : List Char → Option Int
  | '-' :: rest => (digits? rest).map fun n => -(n : Int)
  | cs => (nat? cs).map Int.ofNat

/-- The power of ten at the end of a decimal number. -/
def power? : List Char → Option Int
  | [] => some 0
  | c :: rest => if c = 'e' ∨ c = 'E' then int? rest else none

/-- A decimal number without a sign; a digit must stand before or behind its point. -/
def decimal? (negative : Bool) (cs : List Char) : Option Binary64 := do
  let whole := cs.takeWhile Char.isDigit
  let (fraction, rest) := match cs.dropWhile Char.isDigit with
    | '.' :: rest => (rest.takeWhile Char.isDigit, rest.dropWhile Char.isDigit)
    | rest => ([], rest)
  if whole = [] ∧ fraction = [] then none
  else
    let power ← power? rest
    return .ofDecimal negative (ofDigits (whole ++ fraction)) (power - fraction.length)

/-- A double without a sign. -/
def magnitude? (negative : Bool) (cs : List Char) : Option Binary64 :=
  let name := String.ofList (cs.map Char.toLower)
  if name = "nan" then some (if negative then Binary64.nan.neg else .nan)
  else if name = "inf" ∨ name = "infinity" then some (.ofMagnitude negative Binary64.infinity)
  else decimal? negative cs

def double? : List Char → Option Binary64
  | '+' :: rest => magnitude? false rest
  | '-' :: rest => magnitude? true rest
  | cs => magnitude? false cs

end HomeBus.Number
