import HomeBus.Json.Error

/-!
# The small parts of a JSON text

Blanks, keywords, strings and number literals, read off the front of a byte list. Each function
returns what it read and what is left.

A string is checked to be UTF-8 once it is complete, so a bad escape inside it is found first. A
number literal is taken apart into its digits by `Literal.scan`, and `Literal.number?` gives its
value: integers of up to 64 bits stay integers, all else is a double. A double is formed from the
leading digits that fit in 64 bits, scaled by one rounded power of ten.
-/

namespace HomeBus.Json

/-- Space, tab, line feed and carriage return. -/
def isBlank (b : UInt8) : Bool := b = 0x20 || b = 0x09 || b = 0x0A || b = 0x0D

def skipBlank : Bytes → Bytes
  | [] => []
  | b :: rest => if isBlank b then skipBlank rest else b :: rest

/-- Reads the given bytes, the rest of a keyword whose first letter was seen. -/
def keyword : Bytes → Bytes → Except Malformed Bytes
  | [], rest => .ok rest
  | _ :: _, [] => .error .endInValue
  | expected :: more, b :: rest => if b = expected then keyword more rest else .error .badKeyword

def nullTail : Bytes := [0x75, 0x6C, 0x6C]

def trueTail : Bytes := [0x72, 0x75, 0x65]

def falseTail : Bytes := [0x61, 0x6C, 0x73, 0x65]

/-! ## Strings -/

/-- The value of a hexadecimal digit of either case. -/
def hexValue? (b : UInt8) : Option Nat :=
  let n := b.toNat
  if 0x30 ≤ n && n ≤ 0x39 then some (n - 0x30)
  else if 0x41 ≤ n && n ≤ 0x46 then some (n - 0x37)
  else if 0x61 ≤ n && n ≤ 0x66 then some (n - 0x57)
  else none

/-- The value of four hexadecimal digits. -/
def hexUnit? (a b c d : UInt8) : Option Nat := do
  let a ← hexValue? a
  let b ← hexValue? b
  let c ← hexValue? c
  let d ← hexValue? d
  return ((a * 16 + b) * 16 + c) * 16 + d

/-- The byte that a one-letter escape stands for. -/
def letterEscape? (b : UInt8) : Option UInt8 :=
  if b = 0x22 || b = 0x5C || b = 0x2F then some b
  else if b = 0x62 then some 0x08
  else if b = 0x66 then some 0x0C
  else if b = 0x6E then some 0x0A
  else if b = 0x72 then some 0x0D
  else if b = 0x74 then some 0x09
  else none

def isHighSurrogate (n : Nat) : Bool := 0xD800 ≤ n && n < 0xDC00

def isLowSurrogate (n : Nat) : Bool := 0xDC00 ≤ n && n < 0xE000

/-- The code point of a surrogate pair. -/
def surrogatePair (high low : Nat) : Nat := (high - 0xD800) * 0x400 + (low - 0xDC00) + 0x10000

/-- Puts bytes in front of what was read. -/
def prepend (bytes : Bytes) : Except Malformed (Bytes × Bytes) → Except Malformed (Bytes × Bytes)
  | .ok (content, rest) => .ok (bytes ++ content, rest)
  | .error fault => .error fault

/-- The content of a string whose opening quotation mark was read, with its escapes resolved. -/
def stringBody : Bytes → Except Malformed (Bytes × Bytes)
  | [] => .error .endInString
  | b :: rest =>
    if b = 0x22 then .ok ([], rest)
    else if b = 0x5C then
      match rest with
      | [] => .error .endInString
      | letter :: rest =>
        match letterEscape? letter with
        | some byte => prepend [byte] (stringBody rest)
        | none =>
          if letter = 0x75 then
            match rest with
            | a :: b :: c :: d :: rest =>
              match hexUnit? a b c d with
              | none => .error .badEscape
              | some unit =>
                if isLowSurrogate unit then .error .loneSurrogate
                else if isHighSurrogate unit then
                  match rest with
                  | [] => .error .endInString
                  | backslash :: rest =>
                    if backslash = 0x5C then
                      match rest with
                      | [] => .error .endInString
                      | letter :: rest =>
                        if letter = 0x75 then
                          match rest with
                          | a :: b :: c :: d :: rest =>
                            match hexUnit? a b c d with
                            | none => .error .badEscape
                            | some low =>
                              if isLowSurrogate low then
                                prepend (Utf8.encodeNat (surrogatePair unit low)) (stringBody rest)
                              else .error .loneSurrogate
                          | _ => .error .endInString
                        else .error .missingSurrogate
                    else .error .missingSurrogate
                else prepend (Utf8.encodeNat unit) (stringBody rest)
            | _ => .error .endInString
          else .error .badEscape
    else if b < 0x20 then .error .controlCharacter
    else prepend [b] (stringBody rest)

/-- A string whose opening quotation mark was read. -/
def string (bytes : Bytes) : Except Malformed (String × Bytes) :=
  match stringBody bytes with
  | .error fault => .error fault
  | .ok (content, rest) =>
    match Utf8.text? content with
    | some s => .ok (s, rest)
    | none => .error .notUtf8

/-- Skips a string whose opening quotation mark was read; its content is not resolved. -/
def skipString : Bytes → Except Malformed Bytes
  | [] => .error .endInString
  | b :: rest =>
    if b = 0x22 then .ok rest
    else if b = 0x5C then
      match rest with
      | [] => .error .endInString
      | letter :: rest =>
        if (letterEscape? letter).isSome then skipString rest
        else if letter = 0x75 then
          match rest with
          | a :: b :: c :: d :: rest =>
            if (hexUnit? a b c d).isSome then skipString rest else .error .badEscape
          | _ => .error .endInString
        else .error .badEscape
    else if b < 0x20 then .error .controlCharacter
    else skipString rest

/-! ## Numbers -/

def isDigit (b : UInt8) : Bool := 0x30 ≤ b && b ≤ 0x39

def isExponentMark (b : UInt8) : Bool := b = 0x65 || b = 0x45

/-- The digits at the front, as numbers, and what follows them. -/
def digits : Bytes → List Nat × Bytes
  | [] => ([], [])
  | b :: rest =>
    if isDigit b then
      let (more, rest) := digits rest
      ((b.toNat - 0x30) :: more, rest)
    else ([], b :: rest)

/-- A number as it is written. -/
structure Literal where
  negative : Bool
  whole : List Nat
  fraction : List Nat
  /-- The sign (true for minus) and the digits of the power of ten. -/
  exponent : Option (Bool × List Nat)
  deriving DecidableEq

namespace Literal

/-- The part before the point: a zero alone, or digits that start with another one. -/
def scanWhole : Bytes → Except Malformed (List Nat × Bytes)
  | [] => .error .endInValue
  | b :: rest =>
    if b = 0x30 then
      match rest with
      | next :: _ => if isDigit next then .error .badNumber else .ok ([0], rest)
      | [] => .ok ([0], rest)
    else if isDigit b then .ok (digits (b :: rest))
    else .error .badNumber

/-- The digits after the point, if there is a point. -/
def scanFraction : Bytes → Except Malformed (List Nat × Bytes)
  | [] => .ok ([], [])
  | b :: rest =>
    if b = 0x2E then
      match digits rest with
      | ([], []) => .error .endInValue
      | ([], _ :: _) => .error .badNumber
      | found => .ok found
    else .ok ([], b :: rest)

/-- The sign of a power of ten. -/
def scanSign : Bytes → Bool × Bytes
  | [] => (false, [])
  | b :: rest =>
    if b = 0x2B then (false, rest) else if b = 0x2D then (true, rest) else (false, b :: rest)

/-- The power of ten, if there is one. -/
def scanExponent : Bytes → Except Malformed (Option (Bool × List Nat) × Bytes)
  | [] => .ok (none, [])
  | b :: rest =>
    if isExponentMark b then
      let (negative, rest) := scanSign rest
      match digits rest with
      | ([], []) => .error .endInValue
      | ([], _ :: _) => .error .badNumber
      | (found, rest) => .ok (some (negative, found), rest)
    else .ok (none, b :: rest)

/-- A number literal after its sign. -/
def scan (negative : Bool) (bytes : Bytes) : Except Malformed (Literal × Bytes) := do
  let (whole, rest) ← scanWhole bytes
  let (fraction, rest) ← scanFraction rest
  let (exponent, rest) ← scanExponent rest
  return (⟨negative, whole, fraction, exponent⟩, rest)

/-- Appends digits to a significand as long as it fits in 64 bits; the others are left over. -/
def accumulate (significand : Nat) : List Nat → Nat × List Nat
  | [] => (significand, [])
  | digit :: rest =>
    if significand * 10 + digit < 0x1_0000_0000_0000_0000 then
      accumulate (significand * 10 + digit) rest
    else (significand, digit :: rest)

def digitsValue (digits : List Nat) : Nat := digits.foldl (fun n digit => n * 10 + digit) 0

/-- The power of ten as it is written. -/
def writtenPower (literal : Literal) : Int :=
  match literal.exponent with
  | none => 0
  | some (true, digits) => -(digitsValue digits : Int)
  | some (false, digits) => digitsValue digits

/-- The double nearest to a power of ten. -/
def powerOfTen (n : Nat) : Binary64 := Binary64.ofDecimal false 1 n

/-- Divides by `10 ^ 308` as often as asked, until nothing is left. -/
def divideDown (value : Binary64) : Nat → Binary64
  | 0 => value
  | times + 1 =>
    if value.isZero then value else divideDown (value.div (powerOfTen 308)) times

/-- Scales a significand by a power of ten, rounding after each step. -/
def scale (significand : Nat) (power : Int) : Binary64 :=
  let value := Binary64.ofNat significand
  if value.isZero then value
  else if 308 < power then Binary64.ofMagnitude false Binary64.infinity
  else if 0 ≤ power then value.mul (powerOfTen power.toNat)
  else
    let down := (-power).toNat
    let value := divideDown value ((down - 1) / 308)
    if value.isZero then value else value.div (powerOfTen ((down - 1) % 308 + 1))

def signed (negative : Bool) (value : Binary64) : Binary64 := if negative then value.neg else value

/-- The value of a literal; none if it is a double past the finite range. -/
def number? (literal : Literal) : Option Number :=
  let (significand, dropped) := accumulate 0 literal.whole
  if literal.fraction = [] ∧ literal.exponent = none ∧ dropped = [] then
    if literal.negative then
      if significand = 0 ∨ 0x8000_0000_0000_0000 < significand then
        Number.ofDouble? (Binary64.ofNat significand).neg
      else Number.ofInt? (-significand)
    else Number.ofInt? significand
  else
    let (significand, unused) := accumulate significand literal.fraction
    let used := literal.fraction.length - unused.length
    let power := (dropped.length : Int) - used + literal.writtenPower
    Number.ofDouble? (signed literal.negative (scale significand power))

end Literal

/-- A number after its sign. -/
def number (negative : Bool) (bytes : Bytes) : Except Malformed (Number × Bytes) := do
  let (literal, rest) ← Literal.scan negative bytes
  match literal.number? with
  | some n => .ok (n, rest)
  | none => .error .numberTooLarge

/-- Skips the power of ten of a number, if there is one. -/
def skipExponent : Bytes → Except Malformed Bytes
  | [] => .ok []
  | b :: rest =>
    if isExponentMark b then
      match digits (Literal.scanSign rest).2 with
      | ([], _) => .error .badNumber
      | (_, rest) => .ok rest
    else .ok (b :: rest)

/-- Skips a number after its sign; nothing is asked of its size. -/
def skipNumber (bytes : Bytes) : Except Malformed Bytes := do
  let rest ← match Literal.scanWhole bytes with
    | .ok (_, rest) => .ok rest
    | .error _ => .error .badNumber
  match rest with
  | [] => .ok []
  | b :: more =>
    if b = 0x2E then
      match digits more with
      | ([], _) => .error .badNumber
      | (_, rest) => skipExponent rest
    else skipExponent rest

end HomeBus.Json
