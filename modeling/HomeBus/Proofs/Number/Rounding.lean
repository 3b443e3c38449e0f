import HomeBus.Number.Binary64
import Mathlib.Algebra.Order.Field.Rat
import Mathlib.Tactic.FieldSimp
import Mathlib.Tactic.Linarith
import Mathlib.Tactic.NormNum
import Mathlib.Tactic.Positivity
import Mathlib.Tactic.Ring

/-!
# Rounding to doubles

The magnitude words of doubles count through their magnitudes in order, so a rational number is
rounded to a word. `RoundsTo x w` says that `x` is not beyond half way from the double with word `w`
to either of its neighbours, and half way only if `w` is even. There is at most one such word, and
`roundRatio` finds it.

Results:
* `wordScaled_succ`: how far apart neighbours are.
* `RoundsTo.mono`, `RoundsTo.unique`: rounding is monotone, and there is one result only.
* `exists_roundsTo_roundRatio`: the word that `roundRatio` finds.
* `RoundsTo.close`: rounding moves a number by a factor of `1 + 2 ^ (-53)` at most, unless it is
  below the normal range.
* `RoundsTo.le_add_two`: numbers that two such factors lie between round to words that are two words
  apart at most.
-/

namespace HomeBus.Binary64

/-! ## Signs and magnitudes -/

section

variable {d : Binary64} {negative : Bool} {w : ℕ}

theorem bits_ofMagnitude (small : w < 2 ^ 63) :
    (ofMagnitude negative w).bits.toNat = w + if negative then 2 ^ 63 else 0 := by
  have fits : w + (if negative then 2 ^ 63 else 0) < 2 ^ 64 := by
    split <;> omega
  exact UInt64.toNat_ofNat_of_lt fits

theorem magnitude_ofMagnitude (small : w < 2 ^ 63) : (ofMagnitude negative w).magnitude = w := by
  rw [magnitude, bits_ofMagnitude small]
  split <;> omega

theorem isNegative_ofMagnitude (small : w < 2 ^ 63) :
    (ofMagnitude negative w).isNegative = negative := by
  rw [isNegative, bits_ofMagnitude small]
  cases negative with
  | false =>
    rw [if_neg Bool.false_ne_true, decide_eq_false_iff_not]
    omega
  | true =>
    rw [if_pos rfl, decide_eq_true_iff]
    omega

/-- A double is its sign and its magnitude. -/
theorem ofMagnitude_magnitude (d : Binary64) : ofMagnitude d.isNegative d.magnitude = d := by
  have small : d.magnitude < 2 ^ 63 := Nat.mod_lt _ (by decide)
  obtain ⟨bits⟩ := d
  have below : bits.toNat < 2 ^ 64 := bits.toNat_lt
  refine congrArg mk (UInt64.toNat_inj.1 ((bits_ofMagnitude small).trans ?_))
  simp only [magnitude, isNegative, decide_eq_true_eq]
  split <;> omega

theorem infinity_lt : infinity < 2 ^ 63 := by decide

end

/-! ## Magnitude words -/

/-- The position of the last bit of a magnitude word. -/
def wordUnit (w : ℕ) : ℕ := w / 0x10_0000_0000_0000 - 1

/-- The magnitude of a word in units of the smallest double. -/
def wordScaled (w : ℕ) : ℕ := (w - wordUnit w * 0x10_0000_0000_0000) * 2 ^ wordUnit w

theorem scaled_eq_wordScaled (d : Binary64) : d.scaled = wordScaled d.magnitude := by
  have same : d.significand = d.magnitude - d.unit * 0x10_0000_0000_0000 := by
    unfold significand unit exponentField
    split_ifs <;> omega
  rw [scaled, same]
  rfl

variable {w q unit : ℕ}

theorem wordUnit_mono {a b : ℕ} (h : a ≤ b) : wordUnit a ≤ wordUnit b := by
  unfold wordUnit
  omega

/-- A word is its significand, put behind the number of its last bit. -/
theorem wordScaled_add (small : q ≤ 0x20_0000_0000_0000)
    (normal : unit = 0 ∨ 0x10_0000_0000_0000 ≤ q) :
    wordScaled (unit * 0x10_0000_0000_0000 + q) = q * 2 ^ unit := by
  obtain last | carry : wordUnit (unit * 0x10_0000_0000_0000 + q) = unit ∨
      q = 0x20_0000_0000_0000 := by
    unfold wordUnit
    omega
  · rw [wordScaled, last, Nat.add_sub_cancel_left]
  · have next : wordUnit (unit * 0x10_0000_0000_0000 + q) = unit + 1 := by
      unfold wordUnit
      omega
    have half : unit * 0x10_0000_0000_0000 + q - (unit + 1) * 0x10_0000_0000_0000 =
        0x10_0000_0000_0000 := by omega
    rw [wordScaled, next, half, carry, Nat.pow_succ, ← Nat.mul_assoc, Nat.mul_right_comm]

/-- The neighbour above is away by the last bit. -/
theorem wordScaled_succ (w : ℕ) : wordScaled (w + 1) = wordScaled w + 2 ^ wordUnit w := by
  obtain ⟨q, split⟩ : ∃ q, w = wordUnit w * 0x10_0000_0000_0000 + q :=
    ⟨w - wordUnit w * 0x10_0000_0000_0000, by unfold wordUnit; omega⟩
  have small : q + 1 ≤ 0x20_0000_0000_0000 := by
    unfold wordUnit at split
    omega
  have normal : wordUnit w = 0 ∨ 0x10_0000_0000_0000 ≤ q := by
    unfold wordUnit at split ⊢
    omega
  generalize wordUnit w = unit at *
  subst split
  rw [Nat.add_assoc, wordScaled_add small (by omega), wordScaled_add (by omega) normal,
    Nat.add_mul, Nat.one_mul]

theorem wordScaled_strictMono : StrictMono wordScaled :=
  strictMono_nat_of_lt_succ fun w => by
    rw [wordScaled_succ]
    exact Nat.lt_add_of_pos_right (Nat.two_pow_pos _)

/-- The neighbour below is away by the last bit, too, but nearer at the least significand of a
    place. -/
theorem wordScaled_pred (small : q ≤ 0x20_0000_0000_0000)
    (normal : unit = 0 ∨ 0x10_0000_0000_0000 ≤ q) (some_ : 0 < q) :
    wordScaled (unit * 0x10_0000_0000_0000 + q - 1) + 2 ^ unit = q * 2 ^ unit ∨
      0 < unit ∧ q = 0x10_0000_0000_0000 ∧
        wordScaled (unit * 0x10_0000_0000_0000 + q - 1) < q * 2 ^ unit := by
  by_cases least : 0 < unit ∧ q = 0x10_0000_0000_0000
  · refine .inr ⟨least.1, least.2, ?_⟩
    rw [← wordScaled_add small normal]
    exact wordScaled_strictMono (by omega)
  · have scaled : wordScaled (unit * 0x10_0000_0000_0000 + (q - 1)) = (q - 1) * 2 ^ unit :=
      wordScaled_add (by omega) (by omega)
    rw [Nat.add_sub_assoc some_, scaled, ← Nat.succ_mul, Nat.succ_eq_add_one,
      Nat.sub_add_cancel some_]
    exact .inl rfl

theorem wordScaled_le (w : ℕ) : wordScaled w ≤ (2 ^ 53 - 1) * 2 ^ wordUnit w := by
  refine Nat.mul_le_mul_right _ ?_
  unfold wordUnit
  omega

theorem le_wordScaled (normal : 2 ^ 52 ≤ w) : 2 ^ 52 * 2 ^ wordUnit w ≤ wordScaled w := by
  refine Nat.mul_le_mul_right _ ?_
  unfold wordUnit
  omega

/-! ## Values -/

/-- The smallest double. -/
def tiny : ℚ := 1 / 2 ^ 1074

theorem tiny_pos : 0 < tiny := by
  unfold tiny
  positivity

/-- The magnitude of a word. -/
def wordValue (w : ℕ) : ℚ := wordScaled w * tiny

/-- The distance from a word to its neighbour above. -/
def wordGap (w : ℕ) : ℚ := 2 ^ wordUnit w * tiny

theorem wordValue_succ (w : ℕ) : wordValue (w + 1) = wordValue w + wordGap w := by
  unfold wordValue wordGap
  rw [wordScaled_succ]
  push_cast
  ring

theorem wordGap_mono {a b : ℕ} (h : a ≤ b) : wordGap a ≤ wordGap b := by
  unfold wordGap
  have := tiny_pos
  gcongr
  · norm_num
  · exact wordUnit_mono h

theorem tiny_le_wordGap (w : ℕ) : tiny ≤ wordGap w := by
  have least : wordGap 0 = tiny := by
    change 2 ^ 0 * tiny = tiny
    ring
  rw [← least]
  exact wordGap_mono (Nat.zero_le w)

theorem wordValue_strictMono : StrictMono wordValue := fun a b h => by
  unfold wordValue
  have := tiny_pos
  have := wordScaled_strictMono h
  gcongr

theorem wordValue_zero : wordValue 0 = 0 := by
  have zero : wordScaled 0 = 0 := rfl
  rw [wordValue, zero, Nat.cast_zero, zero_mul]

theorem wordValue_le (w : ℕ) : wordValue w ≤ (2 ^ 53 - 1) * wordGap w := by
  have bound : (wordScaled w : ℚ) ≤ ((2 ^ 53 - 1) * 2 ^ wordUnit w : ℕ) :=
    Nat.cast_le.2 (wordScaled_le w)
  have pos := tiny_pos
  unfold wordValue wordGap
  push_cast at bound
  rw [← mul_assoc]
  exact mul_le_mul_of_nonneg_right (by linarith) pos.le

theorem le_wordValue (normal : 2 ^ 52 ≤ w) : 2 ^ 52 * wordGap w ≤ wordValue w := by
  have bound : ((2 ^ 52 * 2 ^ wordUnit w : ℕ) : ℚ) ≤ wordScaled w :=
    Nat.cast_le.2 (le_wordScaled normal)
  have pos := tiny_pos
  unfold wordValue wordGap
  push_cast at bound
  rw [← mul_assoc]
  exact mul_le_mul_of_nonneg_right bound pos.le

/-- A magnitude that is not zero is not less than the distance to its neighbour above. -/
theorem wordGap_le (pos : 0 < w) : wordGap w ≤ wordValue w := by
  have one : 1 * 2 ^ wordUnit w ≤ wordScaled w := by
    refine Nat.mul_le_mul_right _ ?_
    unfold wordUnit
    omega
  have one : ((1 * 2 ^ wordUnit w : ℕ) : ℚ) ≤ wordScaled w := Nat.cast_le.2 one
  have least := tiny_pos
  unfold wordGap wordValue
  push_cast at one
  rw [one_mul] at one
  exact mul_le_mul_of_nonneg_right one least.le

/-- Every number with a significand of 53 bits, and its last bit before the point, is a double. -/
theorem exists_wordValue {m : ℕ} (small : m ≤ 2 ^ 53) (shift : ℕ) :
    ∃ w, wordValue w = m * 2 ^ shift := by
  rcases Nat.eq_zero_or_pos m with rfl | pos
  · exact ⟨0, by rw [wordValue_zero, Nat.cast_zero, zero_mul]⟩
  obtain ⟨places, smallest⟩ : ∃ places, places = 1074 := ⟨_, rfl⟩
  obtain ⟨up, up_eq⟩ : ∃ up, up = 52 - Nat.log2 m := ⟨_, rfl⟩
  obtain ⟨unit, unit_eq⟩ : ∃ unit, unit + up = places + shift := ⟨places + shift - up, by omega⟩
  have least : 2 ^ 52 ≤ m * 2 ^ up := by
    calc 2 ^ 52 ≤ 2 ^ (Nat.log2 m + up) := Nat.pow_le_pow_right (by decide) (by omega)
      _ = 2 ^ Nat.log2 m * 2 ^ up := Nat.pow_add ..
      _ ≤ m * 2 ^ up := Nat.mul_le_mul_right _ (Nat.log2_self_le pos.ne')
  have most : m * 2 ^ up ≤ 2 ^ 53 := by
    by_cases full : up = 0
    · rw [full, Nat.pow_zero, Nat.mul_one]
      exact small
    · calc m * 2 ^ up ≤ 2 ^ (Nat.log2 m + 1) * 2 ^ up := Nat.mul_le_mul_right _ Nat.lt_log2_self.le
        _ = 2 ^ 53 := by
            rw [← Nat.pow_add]
            congr 1
            omega
  refine ⟨unit * 0x10_0000_0000_0000 + m * 2 ^ up, ?_⟩
  have scaled : m * 2 ^ up * 2 ^ unit = m * 2 ^ shift * 2 ^ places := by
    rw [Nat.mul_assoc, Nat.mul_assoc, ← Nat.pow_add, ← Nat.pow_add, Nat.add_comm up, unit_eq,
      Nat.add_comm shift]
  rw [wordValue, wordScaled_add most (.inr least), scaled, tiny, ← smallest]
  push_cast
  field_simp

/-! ## The nearest word -/

/-- The double with word `w` is nearest to `x`, and no other one unless `w` is even. -/
structure RoundsTo (x : ℚ) (w : ℕ) : Prop where
  above : wordValue (w - 1) + wordValue w ≤ 2 * x
  below : 2 * x ≤ wordValue w + wordValue (w + 1)
  even_of_above : 2 * x = wordValue (w - 1) + wordValue w → w % 2 = 0
  even_of_below : 2 * x = wordValue w + wordValue (w + 1) → w % 2 = 0

namespace RoundsTo

variable {x y : ℚ} {a b w : ℕ}

theorem mono (hx : RoundsTo x a) (hy : RoundsTo y b) (h : x ≤ y) : a ≤ b := by
  by_contra less
  have low : wordValue b ≤ wordValue (a - 1) := wordValue_strictMono.monotone (by omega)
  have high : wordValue (b + 1) ≤ wordValue a := wordValue_strictMono.monotone (by omega)
  have first := hx.above
  have second := hy.below
  -- Only half way between two neighbours both could be nearest.
  have evenA := hx.even_of_above (by linarith)
  have evenB := hy.even_of_below (by linarith)
  have same : wordValue b = wordValue (a - 1) := by linarith
  have := wordValue_strictMono.injective same
  omega

theorem unique (ha : RoundsTo x a) (hb : RoundsTo x b) : a = b :=
  Nat.le_antisymm (ha.mono hb le_rfl) (hb.mono ha le_rfl)

/-- A double is nearest to itself. -/
theorem self (w : ℕ) : RoundsTo (wordValue w) w := by
  have next : wordValue w < wordValue (w + 1) := wordValue_strictMono (Nat.lt_succ_self w)
  refine ⟨?_, by linarith, fun same => ?_, fun same => by linarith⟩
  · have := wordValue_strictMono.monotone (Nat.sub_le w 1)
    linarith
  · have same : wordValue (w - 1) = wordValue w := by linarith
    have := wordValue_strictMono.injective same
    omega

theorem le_of_le (hx : RoundsTo x w) (h : x ≤ wordValue b) : w ≤ b := hx.mono (self b) h

theorem le_of_ge (hx : RoundsTo x w) (h : wordValue b ≤ x) : b ≤ w := (self b).mono hx h

/-- A number above zero does not round to more than it by a gap. -/
theorem sub_le (hx : RoundsTo x w) : 2 * (wordValue w - x) ≤ wordGap (w - 1) := by
  have above := hx.above
  cases w with
  | zero =>
    have pos := tiny_pos
    have gap := tiny_le_wordGap (0 - 1)
    rw [Nat.zero_sub, wordValue_zero] at above
    rw [wordValue_zero]
    linarith
  | succ w =>
    rw [Nat.succ_sub_one] at above ⊢
    have gap := wordValue_succ w
    linarith

theorem le_sub (hx : RoundsTo x w) : 2 * (x - wordValue w) ≤ wordGap w := by
  have below := hx.below
  rw [wordValue_succ] at below
  linarith

/-- How far a number below a power of two is from the double that it rounds to. -/
theorem abs_sub_le (hx : RoundsTo x w) (some_ : 0 < unit) (small : x ≤ 2 ^ 52 * 2 ^ unit * tiny) :
    |wordValue w - x| ≤ 2 ^ unit * tiny / 4 := by
  obtain ⟨lower, rfl⟩ : ∃ lower, unit = lower + 1 := ⟨unit - 1, by omega⟩
  obtain ⟨top, top_eq⟩ : ∃ top,
      top = (lower + 1) * 0x10_0000_0000_0000 + 0x10_0000_0000_0000 := ⟨_, rfl⟩
  have value : wordValue top = 2 ^ 52 * 2 ^ (lower + 1) * tiny := by
    rw [wordValue, top_eq, wordScaled_add (by decide) (.inr le_rfl)]
    norm_num
  have gap (a : ℕ) (h : a < top) : wordGap a ≤ 2 ^ (lower + 1) * tiny / 2 := by
    have last : wordUnit (top - 1) = lower := by
      unfold wordUnit
      omega
    have widest : wordGap a ≤ wordGap (top - 1) := wordGap_mono (by omega)
    rw [wordGap.eq_1 (top - 1), last] at widest
    rw [pow_succ]
    linarith
  have word : w ≤ top := hx.le_of_le (small.trans_eq value.symm)
  have under := hx.sub_le
  have beyond := hx.le_sub
  rw [abs_le]
  constructor
  · rcases word.lt_or_eq with inside | rfl
    · have := gap w inside
      linarith
    · have := tiny_pos
      have : (0 : ℚ) ≤ 2 ^ (lower + 1) * tiny / 4 := by positivity
      linarith
  · have := gap (w - 1) (by omega)
    linarith

end RoundsTo

/-! ## The word that is found -/

/-- The nearest integer to a quotient is not farther from it than a half, and is even at a half. -/
theorem roundDiv_spec (num : ℕ) {den : ℕ} (pos : 0 < den) :
    2 * (roundDiv num den * den) ≤ 2 * num + den ∧ 2 * num ≤ 2 * (roundDiv num den * den) + den ∧
      (2 * (roundDiv num den * den) = 2 * num + den → roundDiv num den % 2 = 0) ∧
      (2 * num = 2 * (roundDiv num den * den) + den → roundDiv num den % 2 = 0) := by
  have split := Nat.div_add_mod' num den
  have less := Nat.mod_lt num pos
  unfold roundDiv
  dsimp only
  generalize num / den = quotient at *
  split_ifs with up
  · simp only [Bool.or_eq_true, Bool.and_eq_true, decide_eq_true_eq] at up
    rw [Nat.add_mul, Nat.one_mul]
    omega
  · simp only [Bool.or_eq_true, Bool.and_eq_true, decide_eq_true_eq] at up
    omega

theorem roundDiv_le {num den bound : ℕ} (pos : 0 < den) (less : num < bound * den) :
    roundDiv num den ≤ bound := by
  have above := (roundDiv_spec num pos).1
  by_contra more
  have := Nat.mul_le_mul_right den (Nat.lt_of_not_le more)
  rw [Nat.succ_mul] at this
  omega

theorem le_roundDiv {num den bound : ℕ} (pos : 0 < den) (le : bound * den ≤ num) :
    bound ≤ roundDiv num den := by
  have below := (roundDiv_spec num pos).2.1
  by_contra less
  have := Nat.mul_le_mul_right den (Nat.lt_of_not_le less)
  rw [Nat.succ_mul] at this
  omega

/-- Rounding to a word, on natural numbers. -/
theorem roundsTo_of_units {num den w places : ℕ} (smallest : places = 1074) (pos : 0 < den)
    (above : (wordScaled (w - 1) + wordScaled w) * den ≤ 2 * (num * 2 ^ places))
    (below : 2 * (num * 2 ^ places) ≤ (wordScaled w + wordScaled (w + 1)) * den)
    (even_of_above :
      2 * (num * 2 ^ places) = (wordScaled (w - 1) + wordScaled w) * den → w % 2 = 0)
    (even_of_below :
      2 * (num * 2 ^ places) = (wordScaled w + wordScaled (w + 1)) * den → w % 2 = 0) :
    RoundsTo (num / den) w := by
  have tiny_eq : tiny = 1 / 2 ^ places := by rw [smallest, tiny]
  have den_pos : (0 : ℚ) < den := Nat.cast_pos.2 pos
  have unit : (0 : ℚ) < 2 ^ places * den := mul_pos (by positivity) den_pos
  -- Both sides are counted in parts of the denominator of the smallest double.
  have value (s t : ℕ) : (s : ℚ) * tiny + t * tiny = ((s + t) * den : ℕ) / (2 ^ places * den) := by
    rw [tiny_eq]
    push_cast
    field_simp
  have twice : 2 * ((num : ℚ) / den) = (2 * (num * 2 ^ places) : ℕ) / (2 ^ places * den) := by
    push_cast
    field_simp
  refine ⟨?_, ?_, fun same => even_of_above ?_, fun same => even_of_below ?_⟩
  · rw [wordValue, wordValue, value, twice]
    exact div_le_div_of_nonneg_right (Nat.cast_le.2 above) unit.le
  · rw [wordValue, wordValue, value, twice]
    exact div_le_div_of_nonneg_right (Nat.cast_le.2 below) unit.le
  · rw [wordValue, wordValue, value, twice, div_left_inj' unit.ne'] at same
    exact Nat.cast_injective same
  · rw [wordValue, wordValue, value, twice, div_left_inj' unit.ne'] at same
    exact Nat.cast_injective same

/-- The significand that is nearest to a quotient makes the nearest word, if its last bit is where
    the normal form has it. -/
theorem roundsTo_roundDiv {num den unit places : ℕ} (smallest : places = 1074) (pos : 0 < den)
    (high : num * 2 ^ places < 2 ^ 53 * (den * 2 ^ unit))
    (low : unit = 0 ∨ 2 ^ 52 * (den * 2 ^ unit) ≤ num * 2 ^ places) :
    RoundsTo (num / den) (unit * 0x10_0000_0000_0000 +
      roundDiv (num * 2 ^ places) (den * 2 ^ unit)) := by
  have step : 0 < den * 2 ^ unit := Nat.mul_pos pos (Nat.two_pow_pos unit)
  have most := roundDiv_le step high
  have least := low.imp_right (le_roundDiv step)
  obtain ⟨above, below, even_above, even_below⟩ := roundDiv_spec (num * 2 ^ places) step
  generalize found : roundDiv (num * 2 ^ places) (den * 2 ^ unit) = q at *
  have swap (k : ℕ) : k * 2 ^ unit * den = k * (den * 2 ^ unit) := by
    rw [Nat.mul_assoc, Nat.mul_comm (2 ^ unit)]
  have here : wordScaled (unit * 0x10_0000_0000_0000 + q) * den = q * (den * 2 ^ unit) := by
    rw [wordScaled_add most least, swap]
  have after : q * (den * 2 ^ unit) + den * 2 ^ unit ≤
      wordScaled (unit * 0x10_0000_0000_0000 + q + 1) * den := by
    have last : unit ≤ wordUnit (unit * 0x10_0000_0000_0000 + q) := by
      unfold wordUnit
      omega
    have gap := Nat.mul_le_mul_right den (Nat.pow_le_pow_right (by decide : 0 < 2) last)
    rw [wordScaled_succ, Nat.add_mul (wordScaled _), here, Nat.mul_comm den (2 ^ unit)]
    omega
  have before : q = 0 ∧ wordScaled (unit * 0x10_0000_0000_0000 + q - 1) * den = 0 ∨
      wordScaled (unit * 0x10_0000_0000_0000 + q - 1) * den + den * 2 ^ unit =
        q * (den * 2 ^ unit) ∨
      q * (den * 2 ^ unit) ≤ num * 2 ^ places ∧
        wordScaled (unit * 0x10_0000_0000_0000 + q - 1) * den < q * (den * 2 ^ unit) := by
    rcases Nat.eq_zero_or_pos q with zero | some_
    · have first : unit * 0x10_0000_0000_0000 + q - 1 = 0 := by omega
      rw [first]
      exact .inl ⟨zero, Nat.zero_mul den⟩
    rcases wordScaled_pred most least some_ with gap | ⟨some_unit, bottom, less⟩
    · have gap := congrArg (· * den) gap
      rw [Nat.add_mul, swap, Nat.mul_comm (2 ^ unit)] at gap
      exact .inr (.inl gap)
    · have less := Nat.mul_lt_mul_of_pos_right less pos
      rw [swap] at less
      refine .inr (.inr ⟨?_, less⟩)
      rw [bottom]
      exact low.resolve_left some_unit.ne'
  have none_ : q = 0 → q * (den * 2 ^ unit) = 0 := fun zero => by rw [zero, Nat.zero_mul]
  have parity : (unit * 0x10_0000_0000_0000 + q) % 2 = q % 2 := by omega
  refine roundsTo_of_units smallest pos ?_ ?_ ?_ ?_
  all_goals rw [Nat.add_mul, here]
  · omega
  · omega
  · rw [parity]
    omega
  · rw [parity]
    omega

/-- The word that `roundRatio` finds is the nearest one, unless this is past infinity. -/
theorem exists_roundsTo_roundRatio (num : ℕ) {den : ℕ} (pos : 0 < den) :
    ∃ w, RoundsTo (num / den) w ∧ roundRatio num den = min infinity w := by
  obtain ⟨places, smallest⟩ : ∃ places, places = 1074 := ⟨_, rfl⟩
  unfold roundRatio
  rw [← smallest]
  extract_lets units whole unit
  have split : num * 2 ^ places = whole * den + num * 2 ^ places % den :=
    (Nat.div_add_mod' _ den).symm
  have less := Nat.mod_lt (num * 2 ^ places) pos
  refine ⟨_, @roundsTo_roundDiv num den unit places smallest pos ?_ ?_, rfl⟩
  · have top : whole + 1 ≤ 2 ^ 53 * 2 ^ unit := by
      rw [← Nat.pow_add]
      exact Nat.lt_log2_self.trans_le (Nat.pow_le_pow_right (by decide) (by omega))
    calc num * 2 ^ places < (whole + 1) * den := by
          rw [Nat.succ_mul]
          omega
      _ ≤ 2 ^ 53 * 2 ^ unit * den := Nat.mul_le_mul_right den top
      _ = 2 ^ 53 * (den * 2 ^ unit) := by rw [Nat.mul_assoc, Nat.mul_comm den]
  · refine (Nat.eq_zero_or_pos unit).imp_right fun some_ => ?_
    have nonzero : whole ≠ 0 := by
      intro zero
      have none_ : unit = Nat.log2 0 - 52 := congrArg (fun n => Nat.log2 n - 52) zero
      rw [none_] at some_
      exact absurd some_ (by decide)
    have bottom : 2 ^ 52 * 2 ^ unit ≤ whole := by
      rw [← Nat.pow_add]
      exact (Nat.pow_le_pow_right (by decide) (by omega)).trans (Nat.log2_self_le nonzero)
    calc 2 ^ 52 * (den * 2 ^ unit) = 2 ^ 52 * 2 ^ unit * den := by
          rw [Nat.mul_assoc, Nat.mul_comm den]
      _ ≤ whole * den := Nat.mul_le_mul_right den bottom
      _ ≤ num * 2 ^ places := by omega

/-! ## What rounding moves -/

/-- The factor by which rounding moves a number in the normal range at most. -/
def slack : ℚ := 1 + 1 / 2 ^ 53

/-- Two numbers that so many roundings may lie between. -/
structure Close (n : ℕ) (x y : ℚ) : Prop where
  left : x ≤ y * slack ^ n
  right : y ≤ x * slack ^ n

namespace Close

variable {x y z t : ℚ} {m n : ℕ}

theorem refl (x : ℚ) : Close 0 x x := ⟨by simp, by simp⟩

theorem slack_pos : 0 < slack := by
  unfold slack
  norm_num

theorem trans (h : Close m x y) (k : Close n y z) : Close (m + n) x z := by
  have pos := slack_pos
  constructor
  · calc x ≤ y * slack ^ m := h.left
      _ ≤ z * slack ^ n * slack ^ m := by
          gcongr
          exact k.left
      _ = z * slack ^ (m + n) := by ring
  · calc z ≤ y * slack ^ n := k.right
      _ ≤ x * slack ^ m * slack ^ n := by
          gcongr
          exact h.right
      _ = x * slack ^ (m + n) := by ring

theorem mul (h : Close m x y) (k : Close n z t) (hx : 0 ≤ x) (hy : 0 ≤ y) (hz : 0 ≤ z)
    (ht : 0 ≤ t) : Close (m + n) (x * z) (y * t) := by
  have pos := slack_pos
  constructor
  · calc x * z ≤ y * slack ^ m * (t * slack ^ n) := by
          gcongr
          · exact h.left
          · exact k.left
      _ = y * t * slack ^ (m + n) := by ring
  · calc y * t ≤ x * slack ^ m * (z * slack ^ n) := by
          gcongr
          · exact h.right
          · exact k.right
      _ = x * z * slack ^ (m + n) := by ring

theorem inv (h : Close n x y) (hx : 0 < x) (hy : 0 < y) : Close n x⁻¹ y⁻¹ := by
  have pos := slack_pos
  constructor
  · rw [← div_eq_inv_mul, inv_le_comm₀ hx (by positivity), inv_div, div_le_iff₀ (by positivity)]
    exact h.right
  · rw [← div_eq_inv_mul, inv_le_comm₀ hy (by positivity), inv_div, div_le_iff₀ (by positivity)]
    exact h.left

theorem div (h : Close m x y) (k : Close n z t) (hx : 0 ≤ x) (hy : 0 ≤ y) (hz : 0 < z)
    (ht : 0 < t) : Close (m + n) (x / z) (y / t) := by
  rw [div_eq_mul_inv, div_eq_mul_inv]
  exact h.mul (k.inv hz ht) hx hy (by positivity) (by positivity)

end Close

namespace RoundsTo

variable {x y : ℚ} {a b w : ℕ}

/-- The smallest double of the normal range. -/
theorem wordValue_normal : wordValue (2 ^ 52) = 2 ^ 52 * tiny := by
  have scaled : wordScaled (2 ^ 52) = 2 ^ 52 := by decide
  rw [wordValue, scaled]
  norm_num

/-- A number in the normal range and the double that it rounds to are close. -/
theorem close (hx : RoundsTo x w) (normal : wordValue (2 ^ 52) ≤ x) : Close 1 x (wordValue w) := by
  have least := hx.le_of_ge normal
  constructor
  · have gap := le_wordValue least
    have err := hx.le_sub
    unfold slack
    linarith
  · -- The gap below is that of the neighbour there, which is not beyond the number.
    have err := hx.sub_le
    have gap : 2 ^ 52 * wordGap (w - 1) ≤ x := by
      by_cases inner : 2 ^ 52 ≤ w - 1
      · have := le_wordValue inner
        have := wordValue_strictMono.monotone (Nat.sub_le w 1)
        have := hx.above
        linarith
      · have first : w - 1 < 0x10_0000_0000_0000 := by omega
        have unit : wordUnit (w - 1) = 0 := by
          unfold wordUnit
          omega
        rw [wordGap, unit, pow_zero, one_mul, ← wordValue_normal]
        exact normal
    unfold slack
    linarith

/-- What is close to a number, or off by the smallest double, rounds to a word that is two words up
    at most. -/
theorem le_add_two (hx : RoundsTo x a) (hy : RoundsTo y b)
    (near : y ≤ x * slack ^ 2 ∨ y ≤ x + tiny) : b ≤ a + 2 := by
  by_contra far
  have third : wordValue (a + 2) ≤ wordValue (b - 1) := wordValue_strictMono.monotone (by omega)
  have fourth : wordValue (a + 3) ≤ wordValue b := wordValue_strictMono.monotone (by omega)
  have above := hy.above
  have below := hx.below
  have one := wordValue_succ a
  have two := wordValue_succ (a + 1)
  have three := wordValue_succ (a + 2)
  have wider := wordGap_mono (Nat.le_succ a)
  have widest := wordGap_mono (Nat.le_add_right a 2)
  have least := tiny_le_wordGap a
  have pos := tiny_pos
  have most := wordValue_le a
  rcases near with near | near
  · unfold slack at near
    norm_num at near
    linarith
  · linarith

end RoundsTo

end HomeBus.Binary64
