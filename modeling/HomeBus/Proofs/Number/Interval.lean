import HomeBus.Proofs.Number.Rounding
import HomeBus.Proofs.Number.Shortest
import Mathlib.Algebra.Order.Field.Power

/-!
# Shortest digits identify a double

A point of a grid that is found lies in the interval of the numbers that round to the double. The
search stops at the first grid with such a point, so it is not much finer than the double itself.

Results:
* `roundsTo_gridPoint`: a grid point that is found rounds to the double.
* `ofDecimal_shortest`: the shortest digits of a finite double identify it.
* `shortest_digits_lt`, `le_shortest_exponent`, `shortest_exponent_le`: how many digits there are,
  and where they stand.
-/

namespace HomeBus

/-- The number that a decimal number denotes. -/
def Decimal.value (d : Decimal) : ℚ := d.digits * 10 ^ d.exponent

theorem ten_zpow (exponent : ℤ) :
    (10 : ℚ) ^ exponent = 10 ^ exponent.toNat / 10 ^ (-exponent).toNat := by
  have ten : (10 : ℚ) ≠ 0 := by norm_num
  rw [← zpow_natCast, ← zpow_natCast, ← zpow_sub₀ ten]
  congr 1
  omega

theorem Decimal.value_eq (digits : ℕ) (exponent : ℤ) :
    Decimal.value ⟨digits, exponent⟩ =
      (digits * 10 ^ exponent.toNat : ℕ) / (10 ^ (-exponent).toNat : ℕ) := by
  rw [Decimal.value, ten_zpow, ← mul_div_assoc]
  push_cast
  rfl

namespace Binary64

variable {d : Binary64} {exponent : ℤ} {n : ℕ}

/-! ## Points of grids -/

theorem wordUnit_magnitude (d : Binary64) : wordUnit d.magnitude = d.unit := rfl

/-- Half way to the neighbour below. -/
theorem four_scaled_sub_lowerGap (nonzero : d.isZero = false) :
    4 * d.scaled - d.lowerGap =
      2 * (wordScaled (d.magnitude - 1) + wordScaled d.magnitude) := by
  have some_ : d.magnitude ≠ 0 := by simpa [isZero] using nonzero
  have pred : d.magnitude - 1 + 1 = d.magnitude := by omega
  have gap := wordScaled_succ (d.magnitude - 1)
  rw [pred] at gap
  have twice : d.lowerGap = 2 * 2 ^ wordUnit (d.magnitude - 1) := by
    unfold lowerGap
    split_ifs with least
    · simp only [Bool.and_eq_true, decide_eq_true_eq] at least
      have smaller : d.unit = wordUnit (d.magnitude - 1) + 1 := by
        unfold unit exponentField at *
        unfold wordUnit
        omega
      rw [smaller, ← Nat.pow_succ']
      rfl
    · simp only [Bool.and_eq_true, decide_eq_true_eq] at least
      have same : d.unit = wordUnit (d.magnitude - 1) := by
        unfold unit exponentField at *
        unfold wordUnit
        omega
      rw [same]
      rfl
  rw [twice, scaled_eq_wordScaled]
  omega

theorem four_scaled_add (d : Binary64) :
    4 * d.scaled + 2 * 2 ^ d.unit =
      2 * (wordScaled d.magnitude + wordScaled (d.magnitude + 1)) := by
  rw [wordScaled_succ, scaled_eq_wordScaled, wordUnit_magnitude]
  omega

theorem significand_mod_two (d : Binary64) : d.significand % 2 = d.magnitude % 2 := by
  unfold significand exponentField
  split_ifs <;> omega

/-- A grid point that is found lies in the interval of the double, and at its ends only if they
    belong to it. -/
theorem gridPoint?_inside {places : ℕ} (finest : places = 1076)
    (found : d.gridPoint? exponent = some n) :
    (4 * d.scaled - d.lowerGap) * 10 ^ (-exponent).toNat ≤
        n * (10 ^ exponent.toNat * 2 ^ places) ∧
      n * (10 ^ exponent.toNat * 2 ^ places) ≤
        (4 * d.scaled + 2 * 2 ^ d.unit) * 10 ^ (-exponent).toNat ∧
      (n * (10 ^ exponent.toNat * 2 ^ places) =
          (4 * d.scaled - d.lowerGap) * 10 ^ (-exponent).toNat ∨
        n * (10 ^ exponent.toNat * 2 ^ places) =
          (4 * d.scaled + 2 * 2 ^ d.unit) * 10 ^ (-exponent).toNat → d.significand % 2 = 0) := by
  revert found
  unfold gridPoint?
  rw [← finest]
  intro found
  extract_lets up step centre low high closed inside below above belowNearer at found
  have bounds (k : ℕ) (h : inside k = true) :
      low ≤ k * step ∧ k * step ≤ high ∧ (k * step = low ∨ k * step = high →
        d.significand % 2 = 0) := by
    simp only [inside] at h
    split at h
    · next even =>
      simp only [Bool.and_eq_true, decide_eq_true_eq] at h
      exact ⟨h.1, h.2, fun _ => even⟩
    · simp only [Bool.and_eq_true, decide_eq_true_eq] at h
      omega
  have here : inside n = true := by
    clear_value inside below above belowNearer
    split at found
    · next good =>
      obtain rfl := Option.some.inj found
      exact (Bool.and_eq_true_iff.1 good).1
    · split at found
      · next good =>
        obtain rfl := Option.some.inj found
        exact good
      · cases found
  exact bounds n here

/-- A grid point that is found rounds to the double. -/
theorem roundsTo_gridPoint (nonzero : d.isZero = false) (found : d.gridPoint? exponent = some n) :
    RoundsTo (Decimal.value ⟨n, exponent⟩) d.magnitude := by
  obtain ⟨places, smallest⟩ : ∃ places, places = 1074 := ⟨_, rfl⟩
  have finest : places + 2 = 1076 := by omega
  obtain ⟨low, high, ends⟩ := gridPoint?_inside finest found
  have quarter : n * (10 ^ exponent.toNat * 2 ^ (places + 2)) =
      2 * (2 * (n * 10 ^ exponent.toNat * 2 ^ places)) := by
    rw [Nat.pow_add]
    ring
  rw [four_scaled_sub_lowerGap nonzero, quarter, Nat.mul_assoc 2] at low
  rw [four_scaled_add, quarter, Nat.mul_assoc 2] at high
  rw [four_scaled_sub_lowerGap nonzero, four_scaled_add, quarter, Nat.mul_assoc 2, Nat.mul_assoc 2,
    significand_mod_two] at ends
  rw [Decimal.value_eq]
  refine roundsTo_of_units smallest (Nat.pow_pos (by decide)) ?_ ?_ ?_ ?_
  · omega
  · omega
  · intro same
    exact ends (.inl (congrArg (2 * ·) same))
  · intro same
    exact ends (.inr (congrArg (2 * ·) same))

/-- A grid without a point in the interval of a double is not much finer than the double. -/
theorem wordGap_le_of_none (none_ : d.gridPoint? exponent = none) :
    wordGap d.magnitude ≤ 2 * 10 ^ exponent := by
  obtain ⟨places, finest⟩ : ∃ places, places = 1076 := ⟨_, rfl⟩
  have coarse : 2 * 2 ^ d.unit * 10 ^ (-exponent).toNat ≤ 10 ^ exponent.toNat * 2 ^ places := by
    by_contra fine
    have found := isSome_gridPoint? finest (Nat.lt_of_not_le fine)
    rw [none_] at found
    cases found
  have coarse : ((2 * 2 ^ d.unit * 10 ^ (-exponent).toNat : ℕ) : ℚ) ≤
      (10 ^ exponent.toNat * 2 ^ places : ℕ) := Nat.cast_le.2 coarse
  have tiny_eq : tiny = 4 / 2 ^ places := by
    obtain ⟨less, rfl⟩ : ∃ less, places = less + 2 := ⟨1074, finest⟩
    have smallest : less = 1074 := by omega
    rw [tiny, pow_add, ← smallest]
    field_simp
    norm_num
  push_cast at coarse
  rw [ten_zpow, wordGap, wordUnit_magnitude, tiny_eq, ← mul_div_assoc, ← mul_div_assoc,
    div_le_div_iff₀ (by positivity) (by positivity)]
  linarith

/-! ## The shortest digits -/

theorem magnitude_lt (finite : d.isFinite = true) : d.magnitude < infinity :=
  of_decide_eq_true finite

theorem magnitude_pos (nonzero : d.isZero = false) : 0 < d.magnitude :=
  Nat.pos_of_ne_zero (of_decide_eq_false nonzero)

/-- The shortest digits of a double round to it. -/
theorem roundsTo_shortest (finite : d.isFinite = true) (nonzero : d.isZero = false) :
    RoundsTo d.shortest.value d.magnitude :=
  roundsTo_gridPoint nonzero (shortest_found finite nonzero).1

theorem wordValue_infinity {bits : ℕ} (h : bits = 1024) : wordValue infinity = 2 ^ bits := by
  obtain ⟨places, smallest⟩ : ∃ places, places = 1074 := ⟨_, rfl⟩
  have scaled : wordScaled infinity = 2 ^ (bits + places) := by
    obtain ⟨unit, sum⟩ : ∃ unit, bits + places = 52 + unit := ⟨2046, by omega⟩
    have split : infinity = unit * 0x10_0000_0000_0000 + 0x10_0000_0000_0000 := by
      unfold infinity
      omega
    rw [split, wordScaled_add (by decide) (.inr le_rfl), sum, pow_add]
    norm_num
  rw [wordValue, scaled, tiny, ← smallest, pow_add]
  push_cast
  field_simp

theorem shortest_value_lt (finite : d.isFinite = true) (nonzero : d.isZero = false) :
    d.shortest.value < wordValue infinity := by
  have less := magnitude_lt finite
  have below := (roundsTo_shortest finite nonzero).below
  have here : wordValue d.magnitude < wordValue infinity := wordValue_strictMono less
  have next : wordValue (d.magnitude + 1) ≤ wordValue infinity := wordValue_strictMono.monotone less
  linarith

theorem ten_pow_le_value (pos : 0 < d.shortest.digits) :
    10 ^ d.shortest.exponent ≤ d.shortest.value := by
  have one : (1 : ℚ) ≤ d.shortest.digits := by exact_mod_cast pos
  exact le_mul_of_one_le_left (by positivity) one

theorem shortest_exponent_le (finite : d.isFinite = true) (nonzero : d.isZero = false) :
    d.shortest.exponent ≤ 308 := by
  by_contra large
  obtain ⟨bits, h⟩ : ∃ bits, bits = 1024 := ⟨_, rfl⟩
  have pos := shortest_digits_pos finite nonzero
  have past : (10 : ℚ) ^ (309 : ℤ) < 2 ^ bits :=
    calc (10 : ℚ) ^ (309 : ℤ) ≤ 10 ^ d.shortest.exponent :=
          zpow_le_zpow_right₀ (by norm_num) (by omega)
      _ ≤ d.shortest.value := ten_pow_le_value pos
      _ < wordValue infinity := shortest_value_lt finite nonzero
      _ = 2 ^ bits := wordValue_infinity h
  have past : 10 ^ 309 < 2 ^ bits := by exact_mod_cast past
  rw [h] at past
  exact absurd past (by decide +kernel)

theorem le_shortest_exponent (finite : d.isFinite = true) (nonzero : d.isZero = false) :
    -324 ≤ d.shortest.exponent := by
  rcases (shortest_found finite nonzero).2 with first | none_
  · rw [first, startExponent]
    omega
  · by_contra small
    have fine : tiny ≤ 2 * 10 ^ (-324 : ℤ) :=
      calc tiny ≤ wordGap d.magnitude := tiny_le_wordGap _
        _ ≤ 2 * 10 ^ (d.shortest.exponent + 1) := wordGap_le_of_none none_
        _ ≤ 2 * 10 ^ (-324 : ℤ) := by
            gcongr
            · norm_num
            · omega
    obtain ⟨places, smallest⟩ : ∃ places, places = 1074 := ⟨_, rfl⟩
    obtain ⟨zeros, h⟩ : ∃ zeros, zeros = 324 := ⟨_, rfl⟩
    have power : (10 : ℚ) ^ (-324 : ℤ) = 1 / 10 ^ zeros := by
      rw [ten_zpow, h]
      rfl
    rw [power, tiny, ← smallest, ← mul_div_assoc,
      div_le_div_iff₀ (by positivity) (by positivity)] at fine
    have fine : 1 * 10 ^ zeros ≤ 2 * 1 * 2 ^ places := by exact_mod_cast fine
    rw [h, smallest] at fine
    exact absurd fine (by decide +kernel)

/-- The first grid is not much finer than the magnitude. -/
theorem wordValue_le_start (finite : d.isFinite = true) :
    wordValue d.magnitude ≤ 2 ^ 14 * 10 ^ d.startExponent := by
  obtain ⟨places, smallest⟩ : ∃ places, places = 1074 := ⟨_, rfl⟩
  have small : Nat.log2 d.scaled < 2098 := by
    have := log2_scaled_le d
    have := unit_lt finite
    omega
  have below : d.scaled < 2 ^ (Nat.log2 d.scaled + 1) := Nat.lt_log2_self
  obtain ⟨start, start_eq⟩ : ∃ start, start = d.startExponent := ⟨_, rfl⟩
  rw [← start_eq]
  unfold startExponent at start_eq
  generalize Nat.log2 d.scaled = log at *
  have whole : d.scaled * 10 ^ (-start).toNat ≤ 2 ^ (14 + places) * 10 ^ start.toNat := by
    by_cases negative : start < 0
    · have up := ten_pow_le (-start).toNat
      calc d.scaled * 10 ^ (-start).toNat ≤
            2 ^ (log + 1) * 2 ^ (10 * (((-start).toNat + 2) / 3)) := Nat.mul_le_mul below.le up
        _ ≤ 2 ^ (14 + places) := by
            rw [← Nat.pow_add]
            exact Nat.pow_le_pow_right (by decide) (by omega)
        _ ≤ 2 ^ (14 + places) * 10 ^ start.toNat :=
            Nat.le_mul_of_pos_right _ (Nat.pow_pos (by decide))
    · have down := le_ten_pow start.toNat
      have none_ : (-start).toNat = 0 := by omega
      calc d.scaled * 10 ^ (-start).toNat ≤ 2 ^ (log + 1) := by
            rw [none_, Nat.pow_zero, Nat.mul_one]
            exact below.le
        _ ≤ 2 ^ (14 + places) * 2 ^ (93 * (start.toNat / 28) + 3 * (start.toNat % 28)) := by
            rw [← Nat.pow_add]
            exact Nat.pow_le_pow_right (by decide) (by omega)
        _ ≤ 2 ^ (14 + places) * 10 ^ start.toNat := Nat.mul_le_mul_left _ down
  have whole : ((d.scaled * 10 ^ (-start).toNat : ℕ) : ℚ) ≤
      (2 ^ (14 + places) * 10 ^ start.toNat : ℕ) := Nat.cast_le.2 whole
  rw [pow_add] at whole
  push_cast at whole
  rw [wordValue, ← scaled_eq_wordScaled, ten_zpow, tiny, ← smallest, mul_one_div, ← mul_div_assoc,
    div_le_div_iff₀ (by positivity) (by positivity)]
  linarith

/-- The shortest digits fit in a machine word. -/
theorem shortest_digits_lt (finite : d.isFinite = true) (nonzero : d.isZero = false) :
    d.shortest.digits < 2 ^ 58 := by
  have below := (roundsTo_shortest finite nonzero).below
  rw [wordValue_succ] at below
  have power : (0 : ℚ) < 10 ^ d.shortest.exponent := by positivity
  have few : (d.shortest.digits : ℚ) * 10 ^ d.shortest.exponent <
      2 ^ 58 * 10 ^ d.shortest.exponent := by
    change d.shortest.value < _
    rcases (shortest_found finite nonzero).2 with first | none_
    · have top := wordValue_le_start finite
      have gap : wordGap d.magnitude ≤ wordValue d.magnitude := wordGap_le (magnitude_pos nonzero)
      rw [first] at power ⊢
      norm_num at *
      linarith
    · have gap := wordGap_le_of_none none_
      have most := wordValue_le d.magnitude
      rw [zpow_add₀ (by norm_num), zpow_one] at gap
      norm_num at *
      linarith
  exact_mod_cast lt_of_mul_lt_mul_right few power.le

/-! ## Decimal numbers -/

/-- A decimal number of moderate size is read as the double that is nearest to it. -/
theorem exists_roundsTo_ofDecimal (negative : Bool) {digits : ℕ} (pos : 0 < digits)
    (low : -800 ≤ exponent) (high : exponent ≤ 800) :
    ∃ w, RoundsTo (Decimal.value ⟨digits, exponent⟩) w ∧
      ofDecimal negative digits exponent = ofMagnitude negative (min infinity w) := by
  have top : ¬exponent + (Nat.log2 digits : ℤ) / 3 < -800 := by omega
  unfold ofDecimal
  dsimp only
  rw [if_neg pos.ne', if_neg top, if_neg (by omega), Decimal.value_eq]
  by_cases whole : 0 ≤ exponent
  · have none_ : (-exponent).toNat = 0 := by omega
    rw [if_pos whole, none_]
    obtain ⟨w, rounds, read⟩ :=
      exists_roundsTo_roundRatio (digits * 10 ^ exponent.toNat) Nat.one_pos
    exact ⟨w, rounds, congrArg (ofMagnitude negative) read⟩
  · have none_ : exponent.toNat = 0 := by omega
    have places : 0 < 10 ^ (-exponent).toNat := Nat.pow_pos (by decide)
    rw [if_neg whole, none_, Nat.pow_zero, Nat.mul_one]
    obtain ⟨w, rounds, read⟩ := exists_roundsTo_roundRatio digits places
    exact ⟨w, rounds, congrArg (ofMagnitude negative) read⟩

/-- The shortest digits of a finite double identify it. -/
theorem ofDecimal_shortest (finite : d.isFinite = true) :
    ofDecimal d.isNegative d.shortest.digits d.shortest.exponent = d := by
  cases zero : d.isZero with
  | true =>
    have none_ : d.magnitude = 0 := of_decide_eq_true zero
    rw [shortest, if_pos zero]
    refine (congrArg (ofMagnitude d.isNegative) none_.symm).trans (ofMagnitude_magnitude d)
  | false =>
    have low := le_shortest_exponent finite zero
    have high := shortest_exponent_le finite zero
    obtain ⟨w, rounds, read⟩ := @exists_roundsTo_ofDecimal d.shortest.exponent d.isNegative _
      (shortest_digits_pos finite zero) (by omega) (by omega)
    obtain rfl := rounds.unique (roundsTo_shortest finite zero)
    rw [read, Nat.min_eq_right (magnitude_lt finite).le, ofMagnitude_magnitude]

end Binary64

end HomeBus
