import HomeBus.Number.Text
import HomeBus.Text.Utf8
import HomeBus.Toml.Basic

/-!
# The small parts of a TOML text

Blanks, comments, keys, strings, numbers, dates and times, read off the front of a list of
characters. Each function returns what it read and what is left, or nothing if the text does not
have the form.
-/

namespace HomeBus.Toml.Scan

/-- Reads an `α` off the front of a text. -/
abbrev Scanner (α : Type) := List Char → Option (α × List Char)

def isBlank (c : Char) : Bool := c = ' ' || c = '\t'

def skipBlank (cs : List Char) : List Char := cs.dropWhile isBlank

/-- Whether a character may stand in a comment, and in strings except for their own marks. -/
def isPrintable (c : Char) : Bool := c = '\t' || (' ' ≤ c && c ≠ '\x7f')

/-- Passes a line end. -/
def lineEnd? : List Char → Option (List Char)
  | '\n' :: rest => some rest
  | '\r' :: '\n' :: rest => some rest
  | _ => none

/-- Passes a comment up to its line end. -/
def skipComment : List Char → List Char
  | '#' :: rest => rest.dropWhile isPrintable
  | cs => cs

/-- Passes what may follow an expression on its line, and the line end. -/
def finishLine? (cs : List Char) : Option (List Char) :=
  match skipComment (skipBlank cs) with
  | [] => some []
  | rest => lineEnd? rest

/-- Passes blanks, comments and line ends, as they may stand between the items of an array. -/
def skipLines : Nat → List Char → Option (List Char)
  | 0, _ => none
  | rounds + 1, cs =>
    match skipBlank cs with
    | '#' :: rest =>
      match rest.dropWhile isPrintable with
      | [] => some []
      | rest => (lineEnd? rest).bind (skipLines rounds)
    | rest =>
      match lineEnd? rest with
      | some rest => skipLines rounds rest
      | none => some rest

/-! ## Strings -/

/-- The value of a fixed number of hexadecimal digits. -/
def hexDigits : Nat → Nat → Scanner Nat
  | 0, value, cs => some (value, cs)
  | _ + 1, _, [] => none
  | count + 1, value, c :: rest =>
    match Number.hexValue? c with
    | some digit => hexDigits count (value * 16 + digit) rest
    | none => none

/-- The character of an escape after its backslash. -/
def escape : Scanner Char
  | 'b' :: rest => some ('\x08', rest)
  | 't' :: rest => some ('\t', rest)
  | 'n' :: rest => some ('\n', rest)
  | 'f' :: rest => some ('\x0c', rest)
  | 'r' :: rest => some ('\r', rest)
  | '"' :: rest => some ('"', rest)
  | '\\' :: rest => some ('\\', rest)
  | 'u' :: rest => codePoint 4 rest
  | 'U' :: rest => codePoint 8 rest
  | _ => none
where
  /-- A character given by its number in hexadecimal. -/
  codePoint (count : Nat) : Scanner Char := fun cs => do
    let (value, rest) ← hexDigits count 0 cs
    if Utf8.isScalar value then some (Char.ofNat value, rest) else none

/-- The rest of a string on one line, up to its quotation mark. -/
def basicBody : Nat → Scanner (List Char)
  | 0, _ => none
  | _ + 1, [] => none
  | rounds + 1, c :: rest =>
    if c = '"' then some ([], rest)
    else if c = '\\' then do
      let (c, rest) ← escape rest
      let (more, rest) ← basicBody rounds rest
      return (c :: more, rest)
    else if isPrintable c then do
      let (more, rest) ← basicBody rounds rest
      return (c :: more, rest)
    else none

/-- The rest of a literal string on one line, up to its apostrophe. -/
def literalBody : Scanner (List Char)
  | [] => none
  | c :: rest =>
    if c = '\'' then some ([], rest)
    else if isPrintable c then (literalBody rest).map fun (more, rest) => (c :: more, rest)
    else none

/-- How many of `mark` stand in front, at most five. -/
def countMarks (mark : Char) : List Char → Nat
  | a :: rest => if a = mark then min 5 (countMarks mark rest + 1) else 0
  | [] => 0

/-- Passes blanks and line ends. -/
def skipBlankLines : List Char → List Char
  | ' ' :: rest => skipBlankLines rest
  | '\t' :: rest => skipBlankLines rest
  | '\n' :: rest => skipBlankLines rest
  | '\r' :: '\n' :: rest => skipBlankLines rest
  | cs => cs

/-- Passes blanks and line ends after a backslash at the end of a line. -/
def skipFolded (cs : List Char) : Option (List Char) :=
  (lineEnd? (skipBlank cs)).map skipBlankLines

/--
The rest of a string over several lines, up to three marks; one or two more of them before the end
belong to the content. With `escapes` a backslash has a meaning.
-/
def longBody (mark : Char) (escapes : Bool) : Nat → Scanner (List Char)
  | 0, _ => none
  | _ + 1, [] => none
  | rounds + 1, c :: rest =>
    if c = mark then
      let marks := countMarks mark (c :: rest)
      if 3 ≤ marks then
        some (List.replicate (marks - 3) mark, (c :: rest).drop marks)
      else do
        let (more, rest) ← longBody mark escapes rounds rest
        return (c :: more, rest)
    else if escapes && c = '\\' then
      match skipFolded rest with
      | some rest => longBody mark escapes rounds rest
      | none => do
        let (c, rest) ← escape rest
        let (more, rest) ← longBody mark escapes rounds rest
        return (c :: more, rest)
    else if isPrintable c then do
      let (more, rest) ← longBody mark escapes rounds rest
      return (c :: more, rest)
    else
      match lineEnd? (c :: rest) with
      | some rest => do
        let (more, rest) ← longBody mark escapes rounds rest
        return ('\n' :: more, rest)
      | none => none

/-- A line end right after the opening marks does not count. -/
def dropFirstLineEnd (cs : List Char) : List Char := (lineEnd? cs).getD cs

/-- A string in one of the four forms. -/
def string (cs : List Char) : Option (String × List Char) :=
  let read := match cs with
    | '"' :: '"' :: '"' :: rest => longBody '"' true (cs.length + 1) (dropFirstLineEnd rest)
    | '"' :: rest => basicBody (cs.length + 1) rest
    | '\'' :: '\'' :: '\'' :: rest => longBody '\'' false (cs.length + 1) (dropFirstLineEnd rest)
    | '\'' :: rest => literalBody rest
    | _ => none
  read.map fun (content, rest) => (String.ofList content, rest)

/-! ## Keys -/

def isBareKey (c : Char) : Bool := c.isAlphanum || c = '_' || c = '-'

/-- One part of a key. -/
def simpleKey (cs : List Char) : Option (String × List Char) :=
  match cs with
  | '"' :: rest => (basicBody (cs.length + 1) rest).map fun (k, rest) => (String.ofList k, rest)
  | '\'' :: rest => (literalBody rest).map fun (k, rest) => (String.ofList k, rest)
  | _ =>
    match cs.takeWhile isBareKey with
    | [] => none
    | k => some (String.ofList k, cs.dropWhile isBareKey)

/-- How many parts a key, and how many levels a value, may have. -/
def depthLimit : Nat := 79

/-- The parts of a dotted key with the blanks around them. -/
def key : Nat → Scanner (List String)
  | 0, _ => none
  | parts + 1, cs => do
    let (head, rest) ← simpleKey (skipBlank cs)
    match skipBlank rest with
    | '.' :: rest => do
      let (more, rest) ← key parts rest
      return (head :: more, rest)
    | rest => return ([head], rest)

/-! ## Numbers -/

/-- Digits of a base, with single underscores between them. -/
def digits (value? : Char → Option Nat) (cs : List Char) : Option (List Nat × List Char) :=
  match cs with
  | [] => none
  | c :: rest => do
    let head ← value? c
    let (more, rest) := go rest
    return (head :: more, rest)
where
  go : List Char → List Nat × List Char
    | [] => ([], [])
    | [c] =>
      match value? c with
      | some digit => ([digit], [])
      | none => ([], [c])
    | c :: d :: rest =>
      match value? c with
      | some digit =>
        let (more, rest) := go (d :: rest)
        (digit :: more, rest)
      | none =>
        if c = '_' then
          match value? d with
          | some digit =>
            let (more, rest) := go rest
            (digit :: more, rest)
          | none => ([], c :: d :: rest)
        else ([], c :: d :: rest)

def decimal? (c : Char) : Option Nat := if c.isDigit then some (c.toNat - 48) else none

def octal? (c : Char) : Option Nat := if '0' ≤ c && c ≤ '7' then some (c.toNat - 48) else none

def binary? (c : Char) : Option Nat := if c = '0' || c = '1' then some (c.toNat - 48) else none

def ofDigits (base : Nat) (ds : List Nat) : Nat := ds.foldl (fun n d => n * base + d) 0

/-- The sign of a number; true for minus. -/
def sign : List Char → Bool × List Char
  | '+' :: rest => (false, rest)
  | '-' :: rest => (true, rest)
  | cs => (false, cs)

/-- Decimal digits without a leading zero, or a zero alone. -/
def wholeDigits (cs : List Char) : Option (List Nat × List Char) :=
  match cs with
  | '0' :: rest => some ([0], rest)
  | _ => digits decimal? cs

/-- An integer that fits in 64 bits with sign. -/
def bounded (value : Int) : Option Int :=
  if -0x8000_0000_0000_0000 ≤ value ∧ value < 0x8000_0000_0000_0000 then some value else none

/-- An integer in base 16, 8, 2 or 10. -/
def integer (cs : List Char) : Option (Int × List Char) :=
  match cs with
  | '0' :: 'x' :: rest => based 16 Number.hexValue? rest
  | '0' :: 'o' :: rest => based 8 octal? rest
  | '0' :: 'b' :: rest => based 2 binary? rest
  | _ => do
    let (negative, rest) := sign cs
    let (ds, rest) ← wholeDigits rest
    let magnitude : Int := ofDigits 10 ds
    let value ← bounded (if negative then -magnitude else magnitude)
    return (value, rest)
where
  based (base : Nat) (value? : Char → Option Nat) (cs : List Char) : Option (Int × List Char) := do
    let (ds, rest) ← digits value? cs
    let value ← bounded (ofDigits base ds)
    return (value, rest)

/-- The power of ten of a number, if there is one. -/
def power (cs : List Char) : Option (Option Int × List Char) :=
  match cs with
  | c :: rest =>
    if c = 'e' || c = 'E' then do
      let (negative, rest) := sign rest
      let (ds, rest) ← digits decimal? rest
      let magnitude : Int := ofDigits 10 ds
      return (some (if negative then -magnitude else magnitude), rest)
    else some (none, cs)
  | [] => some (none, cs)

/-- The value of a decimal number with a fraction or a power of ten; it must not be past infinity. -/
def double (cs : List Char) : Option (Binary64 × List Char) := do
  let (negative, rest) := sign cs
  match rest with
  | 'i' :: 'n' :: 'f' :: rest => return (Binary64.ofMagnitude negative Binary64.infinity, rest)
  | 'n' :: 'a' :: 'n' :: rest => return (if negative then Binary64.nan.neg else Binary64.nan, rest)
  | _ =>
    let (whole, rest) ← wholeDigits rest
    let (fraction, rest) ← match rest with
      | '.' :: rest => (digits decimal? rest).map fun (ds, rest) => (some ds, rest)
      | rest => some (none, rest)
    let (exponent, rest) ← power rest
    if fraction.isNone && exponent.isNone then none
    else
      let fraction := fraction.getD []
      let value := Binary64.ofDecimal negative (ofDigits 10 (whole ++ fraction))
        (exponent.getD 0 - (fraction.length : Int))
      if value.isInfinite && !negative then none else return (value, rest)

/-! ## Dates and times -/

/-- A number of exactly `count` digits between `low` and `high`. -/
def fixed (count low high : Nat) (cs : List Char) : Option (Nat × List Char) :=
  let ds := cs.take count
  if ds.length = count && ds.all Char.isDigit then
    let value := ofDigits 10 (ds.map fun c => c.toNat - 48)
    if low ≤ value && value ≤ high then some (value, cs.drop count) else none
  else none

def exactly (c : Char) : List Char → Option (List Char)
  | a :: rest => if a = c then some rest else none
  | [] => none

def daysInMonth (year month : Nat) : Nat :=
  if month = 2 then
    if year % 4 = 0 && (year % 100 ≠ 0 || year % 400 = 0) then 29 else 28
  else if month = 4 || month = 6 || month = 9 || month = 11 then 30
  else 31

/-- Passes a date. -/
def date? (cs : List Char) : Option (List Char) := do
  let (year, rest) ← fixed 4 0 9999 cs
  let rest ← exactly '-' rest
  let (month, rest) ← fixed 2 1 12 rest
  let rest ← exactly '-' rest
  let (day, rest) ← fixed 2 1 31 rest
  if day ≤ daysInMonth year month then some rest else none

/-- Passes a time of day. -/
def time? (cs : List Char) : Option (List Char) := do
  let (_, rest) ← fixed 2 0 23 cs
  let rest ← exactly ':' rest
  let (_, rest) ← fixed 2 0 59 rest
  let rest ← exactly ':' rest
  let (_, rest) ← fixed 2 0 60 rest
  match rest with
  | '.' :: more =>
    match more.takeWhile Char.isDigit with
    | [] => some rest
    | _ => some (more.dropWhile Char.isDigit)
  | _ => some rest

/-- Passes the offset of a time from universal time, if there is one. -/
def offset? (cs : List Char) : Option (List Char) :=
  match cs with
  | c :: rest =>
    if c = 'Z' || c = 'z' then some rest
    else if c = '+' || c = '-' then do
      let (_, rest) ← fixed 2 0 23 rest
      let rest ← exactly ':' rest
      let (_, rest) ← fixed 2 0 59 rest
      some rest
    else some cs
  | [] => some cs

/-- Passes a date, a time, or both with or without an offset. -/
def moment? (cs : List Char) : Option (List Char) :=
  match date? cs with
  | some rest =>
    match rest with
    | c :: more =>
      if c = 'T' || c = 't' || c = ' ' then
        match time? more with
        | some rest => offset? rest
        | none => some rest
      else some rest
    | [] => some rest
  | none => time? cs

end HomeBus.Toml.Scan
