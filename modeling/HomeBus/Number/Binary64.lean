/-!
# Binary floating point numbers

Doubles as their 64-bit patterns, with the arithmetic that reading and printing numbers needs. A
finite magnitude is `significand * 2 ^ unit / 2 ^ 1074` with a significand below `2 ^ 53`, so every
operation is exact arithmetic on natural numbers followed by one rounding, `roundRatio`, which goes
to the nearest double and on a tie to the one with the even significand.
-/

namespace HomeBus

/-- A double, by its bit pattern. -/
structure Binary64 where
  bits : UInt64
  deriving DecidableEq, Inhabited

namespace Binary64

/-- The bits below the sign. -/
def magnitude (d : Binary64) : Nat := d.bits.toNat % 0x8000_0000_0000_0000

def isNegative (d : Binary64) : Bool := 0x8000_0000_0000_0000 ≤ d.bits.toNat

def exponentField (d : Binary64) : Nat := d.magnitude / 0x10_0000_0000_0000

/-- The magnitude word of infinity. -/
def infinity : Nat := 2047 * 0x10_0000_0000_0000

def isFinite (d : Binary64) : Bool := d.magnitude < infinity

def isNaN (d : Binary64) : Bool := infinity < d.magnitude

def isInfinite (d : Binary64) : Bool := d.magnitude = infinity

def isZero (d : Binary64) : Bool := d.magnitude = 0

/-- The significand with its hidden bit. -/
def significand (d : Binary64) : Nat :=
  if d.exponentField = 0 then d.magnitude
  else d.magnitude % 0x10_0000_0000_0000 + 0x10_0000_0000_0000

/-- The position of the significand's last bit above the smallest one, `2 ^ (-1074)`. -/
def unit (d : Binary64) : Nat := d.exponentField - 1

/-- The magnitude in units of `2 ^ (-1074)`. -/
def scaled (d : Binary64) : Nat := d.significand * Nat.pow 2 d.unit

/-- The double of a sign and a magnitude word. -/
def ofMagnitude (negative : Bool) (magnitude : Nat) : Binary64 :=
  ⟨UInt64.ofNat (magnitude + if negative then 0x8000_0000_0000_0000 else 0)⟩

def zero : Binary64 := ⟨0⟩

def nan : Binary64 := ofMagnitude false (infinity + 0x8_0000_0000_0000)

/-- The same magnitude with the other sign. -/
def neg (d : Binary64) : Binary64 := ofMagnitude (!d.isNegative) d.magnitude

/-- The nearest integer to a quotient, a half going to the even one. -/
def roundDiv (num den : Nat) : Nat :=
  let quotient := num / den
  let twice := 2 * (num % den)
  if den < twice || (twice = den && quotient % 2 = 1) then quotient + 1 else quotient

/-- The magnitude word of the double nearest to `num / den`; infinity above the finite range. -/
def roundRatio (num den : Nat) : Nat :=
  let units := num * Nat.pow 2 1074
  let whole := units / den
  let unit := Nat.log2 whole - 52
  min infinity (unit * 0x10_0000_0000_0000 + roundDiv units (den * Nat.pow 2 unit))

/-- The double nearest to a natural number. -/
def ofNat (n : Nat) : Binary64 := ofMagnitude false (roundRatio n 1)

/-- The double nearest to an integer. -/
def ofInt (i : Int) : Binary64 := ofMagnitude (i < 0) (roundRatio i.natAbs 1)

/-- The product of two finite doubles. -/
def mul (a b : Binary64) : Binary64 :=
  ofMagnitude (a.isNegative != b.isNegative) (roundRatio (a.scaled * b.scaled) (Nat.pow 2 2148))

/-- The quotient of two finite doubles, the second not zero. -/
def div (a b : Binary64) : Binary64 :=
  ofMagnitude (a.isNegative != b.isNegative) (roundRatio a.scaled b.scaled)

/--
The double nearest to `digits * 10 ^ exponent`. Beyond the given number of places no power is
formed: the value is then past infinity or below half the smallest double.
-/
def ofDecimal (negative : Bool) (digits : Nat) (exponent : Int) : Binary64 :=
  let top := exponent + (Nat.log2 digits : Int) / 3
  if digits = 0 then ofMagnitude negative 0
  else if top < -800 then ofMagnitude negative 0
  else if 800 < exponent then ofMagnitude negative infinity
  else if 0 ≤ exponent then ofMagnitude negative (roundRatio (digits * Nat.pow 10 exponent.toNat) 1)
  else ofMagnitude negative (roundRatio digits (Nat.pow 10 (-exponent).toNat))

end Binary64

end HomeBus
