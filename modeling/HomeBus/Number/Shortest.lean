import HomeBus.Number.Binary64

/-!
# Shortest decimal digits

`Binary64.shortest` gives the decimal number with the fewest digits among those that round to a
double, and of these the one nearest to it. The numbers that round to a double form an interval
around it, ends included when the significand is even. The search goes down the powers of ten; on
each grid only the two neighbours of the double can be the nearest point inside.

The texts `Decimal.positional` and `Decimal.scientific` write such a number out.
-/

namespace HomeBus

/-- The number `digits * 10 ^ exponent`. -/
structure Decimal where
  digits : Nat
  exponent : Int
  deriving DecidableEq, Repr

namespace Binary64

/-- Four times the distance from a double to its lower neighbour's half way, in quarter units. -/
def lowerGap (d : Binary64) : Nat :=
  if d.magnitude % 0x10_0000_0000_0000 = 0 && 1 < d.exponentField then Nat.pow 2 d.unit
  else 2 * Nat.pow 2 d.unit

/--
The point of the grid of multiples of `10 ^ exponent` that rounds to the finite double `d` and is
nearest to it, a tie going to the even multiple.
-/
def gridPoint? (d : Binary64) (exponent : Int) : Option Nat :=
  let up := Nat.pow 10 (-exponent).toNat
  let step := Nat.pow 10 exponent.toNat * Nat.pow 2 1076
  let centre := 4 * d.scaled * up
  let low := (4 * d.scaled - d.lowerGap) * up
  let high := (4 * d.scaled + 2 * Nat.pow 2 d.unit) * up
  let closed := d.significand % 2 = 0
  let inside (n : Nat) : Bool :=
    if closed then low ≤ n * step && n * step ≤ high else low < n * step && n * step < high
  let below := centre / step
  let above := below + 1
  let belowNearer := centre - below * step < above * step - centre ||
    (centre - below * step = above * step - centre && below % 2 = 0)
  if inside below && (belowNearer || !inside above) then some below
  else if inside above then some above
  else none

/-- Tries the grids of `10 ^ exponent`, `10 ^ (exponent - 1)` and so on, `count` of them. -/
def firstGrid (d : Binary64) : (count : Nat) → (exponent : Int) → Decimal
  | 0, exponent => ⟨0, exponent⟩
  | count + 1, exponent =>
    match d.gridPoint? exponent with
    | some digits => ⟨digits, exponent⟩
    | none => firstGrid d count (exponent - 1)

/--
The fewest digits that identify the magnitude of a finite double, and of these the nearest. The
first grid tried is coarser than the double itself, and 17 digits always suffice.
-/
def shortest (d : Binary64) : Decimal :=
  if d.isZero then ⟨0, 0⟩
  else
    let exponent2 : Int := (Nat.log2 d.scaled : Int) - 1074
    firstGrid d 24 (exponent2 * 30103 / 100000 + 2)

end Binary64

namespace Decimal

/-- The decimal digits of the number, without its exponent. -/
def digitChars (d : Decimal) : List Char := Nat.toDigits 10 d.digits

/-- The power of ten of the first digit. -/
def leading (d : Decimal) : Int := d.exponent + (d.digitChars.length : Int) - 1

/-- All places written out, with at least one digit on both sides of the point. -/
def positional (d : Decimal) : List Char :=
  let ds := d.digitChars
  if 0 ≤ d.exponent then ds ++ List.replicate d.exponent.toNat '0' ++ ['.', '0']
  else
    let places := (-d.exponent).toNat
    if places < ds.length then
      ds.take (ds.length - places) ++ '.' :: ds.drop (ds.length - places)
    else '0' :: '.' :: List.replicate (places - ds.length) '0' ++ ds

/-- One digit before the point, and the power of ten with its sign. -/
def scientific (d : Decimal) : List Char :=
  let power := Nat.toDigits 10 d.leading.natAbs
  let sign := if d.leading < 0 then '-' else '+'
  match d.digitChars with
  | [] => []
  | [digit] => digit :: 'e' :: sign :: power
  | digit :: more => digit :: '.' :: more ++ 'e' :: sign :: power

end Decimal

end HomeBus
