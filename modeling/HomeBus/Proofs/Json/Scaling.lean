import HomeBus.Json.Scan
import HomeBus.Proofs.Number.Interval

/-!
# How doubles are scaled

A number literal with a point or a power of ten is read with two roundings before the last one: the
significand and the power of ten are doubles before they are multiplied or divided. The result is
not always the double that is nearest to the literal, but it is near to it.

Results:
* `exists_roundsTo_mul`, `exists_roundsTo_div`: products and quotients are rounded once.
* `near_of_short`, `near_of_tiny`, `near_of_wide`: dividing by the largest power of ten, before
  another one, leaves a number near to the quotient.
* `exists_scale`: what a literal is read as is two doubles away at most from the nearest one, and is
  the nearest one if the significand and the power of ten are doubles themselves.
-/

namespace HomeBus.Json.Literal

open Binary64 (RoundsTo Close infinity ofMagnitude wordValue wordScaled slack tiny)

variable {a b w n : ℕ}

/-! ## Products and quotients -/

theorem scaled_ofMagnitude (small : w < infinity) :
    (ofMagnitude false w).scaled = wordScaled w := by
  rw [Binary64.scaled_eq_wordScaled,
    Binary64.magnitude_ofMagnitude (small.trans Binary64.infinity_lt)]

theorem exists_roundsTo_mul (ha : a < infinity) (hb : b < infinity) :
    ∃ w, RoundsTo (wordValue a * wordValue b) w ∧
      (ofMagnitude false a).mul (ofMagnitude false b) = ofMagnitude false (min infinity w) := by
  obtain ⟨places, smallest⟩ : ∃ places, places = 1074 := ⟨_, rfl⟩
  obtain ⟨both, twice⟩ : ∃ both, both = 2148 := ⟨_, rfl⟩
  obtain ⟨w, rounds, found⟩ := Binary64.exists_roundsTo_roundRatio (wordScaled a * wordScaled b)
    (Nat.two_pow_pos both)
  have value : wordValue a * wordValue b =
      (wordScaled a * wordScaled b : ℕ) / (2 ^ both : ℕ) := by
    have sum : both = places + places := by omega
    rw [wordValue, wordValue, tiny, ← smallest, sum, pow_add]
    push_cast
    field_simp
  refine ⟨w, value ▸ rounds, ?_⟩
  rw [Binary64.mul, scaled_ofMagnitude ha, scaled_ofMagnitude hb, ← twice,
    Binary64.isNegative_ofMagnitude (ha.trans Binary64.infinity_lt),
    Binary64.isNegative_ofMagnitude (hb.trans Binary64.infinity_lt)]
  exact congrArg (ofMagnitude false) found

theorem exists_roundsTo_div (ha : a < infinity) (hb : b < infinity) (pos : 0 < b) :
    ∃ w, RoundsTo (wordValue a / wordValue b) w ∧
      (ofMagnitude false a).div (ofMagnitude false b) = ofMagnitude false (min infinity w) := by
  have some_ : 0 < wordScaled b := Nat.zero_lt_of_lt (Binary64.wordScaled_strictMono pos)
  obtain ⟨w, rounds, found⟩ := Binary64.exists_roundsTo_roundRatio (wordScaled a) some_
  have value : wordValue a / wordValue b = (wordScaled a : ℚ) / wordScaled b :=
    mul_div_mul_right _ _ Binary64.tiny_pos.ne'
  refine ⟨w, value ▸ rounds, ?_⟩
  rw [Binary64.div, scaled_ofMagnitude ha, scaled_ofMagnitude hb,
    Binary64.isNegative_ofMagnitude (ha.trans Binary64.infinity_lt),
    Binary64.isNegative_ofMagnitude (hb.trans Binary64.infinity_lt)]
  exact congrArg (ofMagnitude false) found

/-! ## Significands and powers of ten -/

/-- The largest power of ten that is a double. -/
def largest : ℕ := 10 ^ 308

theorem largest_pos : 0 < largest := by decide +kernel

/-- What is not beyond the largest power of ten does not round to infinity. -/
theorem lt_infinity {x : ℚ} (rounds : RoundsTo x w) (small : x ≤ largest) : w < infinity := by
  obtain ⟨shift, h⟩ : ∃ shift, shift = 971 := ⟨_, rfl⟩
  obtain ⟨top, value⟩ := Binary64.exists_wordValue (m := 2 ^ 53 - 1) (by decide) shift
  have above : largest ≤ (2 ^ 53 - 1) * 2 ^ shift := by
    rw [h]
    decide +kernel
  have below : wordValue top < wordValue infinity := by
    have sum : 1024 = 53 + shift := by omega
    rw [value, Binary64.wordValue_infinity sum.symm, pow_add]
    have : (0 : ℚ) < 2 ^ shift := by positivity
    gcongr
    norm_num
  have above : (largest : ℚ) ≤ ((2 ^ 53 - 1) * 2 ^ shift : ℕ) := Nat.cast_le.2 above
  push_cast at above value
  exact (rounds.le_of_le (by linarith)).trans_lt (Binary64.wordValue_strictMono.lt_iff_lt.1 below)

theorem pos_of_rounds {x : ℚ} (rounds : RoundsTo x w) (large : tiny ≤ x) : 0 < w := by
  have one : wordValue 1 = tiny := by
    have scaled : wordScaled 1 = 1 := rfl
    rw [wordValue, scaled, Nat.cast_one, one_mul]
  exact rounds.le_of_ge (one.trans_le large)

/-- The smallest double is far below one. -/
theorem two_pow_mul_tiny_le {shift : ℕ} (small : shift ≤ 1074) : 2 ^ shift * tiny ≤ 1 := by
  obtain ⟨places, smallest⟩ : ∃ places, places = 1074 := ⟨_, rfl⟩
  have below : (2 : ℚ) ^ shift ≤ 2 ^ places := pow_le_pow_right₀ (by norm_num) (by omega)
  rw [tiny, ← smallest, mul_one_div, div_le_one (by positivity)]
  exact below

theorem tiny_le_one : tiny ≤ 1 := by
  have := two_pow_mul_tiny_le (Nat.zero_le 1074)
  rwa [pow_zero, one_mul] at this

theorem pos_of_one_le {x : ℚ} (rounds : RoundsTo x w) (one : 1 ≤ x) : 0 < w :=
  pos_of_rounds rounds (tiny_le_one.trans one)

/-- A significand as a double. -/
theorem exists_roundsTo_ofNat (pos : 0 < n) (small : n < 2 ^ 64) :
    ∃ w, RoundsTo n w ∧ 0 < w ∧ w < infinity ∧ Binary64.ofNat n = ofMagnitude false w := by
  obtain ⟨w, rounds, found⟩ := Binary64.exists_roundsTo_roundRatio n Nat.one_pos
  rw [Nat.cast_one, div_one] at rounds
  have one : (1 : ℚ) ≤ n := by exact_mod_cast pos
  have less : w < infinity := by
    refine lt_infinity rounds (Nat.cast_le.2 (small.le.trans ?_))
    decide +kernel
  refine ⟨w, rounds, pos_of_one_le rounds one, less, ?_⟩
  rw [Binary64.ofNat, found, Nat.min_eq_right less.le]

/-- A power of ten as a double. -/
theorem exists_roundsTo_powerOfTen (small : n ≤ 308) :
    ∃ w, RoundsTo (10 ^ n) w ∧ 0 < w ∧ w < infinity ∧ powerOfTen n = ofMagnitude false w := by
  obtain ⟨w, rounds, found⟩ := @Binary64.exists_roundsTo_ofDecimal n false 1 Nat.one_pos
    (by omega) (by omega)
  rw [Decimal.value, Nat.cast_one, one_mul, zpow_natCast] at rounds
  have one : (1 : ℚ) ≤ 10 ^ n := one_le_pow₀ (by norm_num)
  have less : w < infinity := by
    refine lt_infinity rounds ?_
    have below : 10 ^ n ≤ largest := by
      obtain ⟨zeros, h⟩ : ∃ zeros, zeros = 308 := ⟨_, rfl⟩
      rw [largest, ← h]
      exact Nat.pow_le_pow_right (by decide) (small.trans_eq h.symm)
    exact_mod_cast below
  refine ⟨w, rounds, pos_of_one_le rounds one, less, ?_⟩
  rw [powerOfTen, found, Nat.min_eq_right less.le]

theorem not_isZero_ofMagnitude (pos : 0 < w) (less : w < infinity) :
    ¬(ofMagnitude false w).isZero = true := by
  rw [Binary64.isZero, Binary64.magnitude_ofMagnitude (less.trans Binary64.infinity_lt),
    decide_eq_true_iff]
  exact pos.ne'

theorem wordValue_pos (pos : 0 < w) : 0 < wordValue w :=
  Binary64.wordValue_zero.symm.trans_lt (Binary64.wordValue_strictMono pos)

/-- A number from one on and the double that it rounds to are close. -/
theorem close_of_one_le {x : ℚ} (rounds : RoundsTo x w) (one : 1 ≤ x) :
    Close 1 x (wordValue w) := by
  have normal : wordValue (2 ^ 52) ≤ 1 := by
    rw [Binary64.RoundsTo.wordValue_normal]
    exact two_pow_mul_tiny_le (by decide)
  exact rounds.close (normal.trans one)

/-! ## The number before the last rounding -/

/-- What is rounded last is as far from the number that is meant as two roundings are, or not
    farther than the smallest double. -/
structure Near (x y : ℚ) : Prop where
  above : y ≤ x * slack ^ 2 ∨ y ≤ x + tiny
  below : x ≤ y * slack ^ 2 ∨ x ≤ y + tiny

theorem Near.of_close {x y : ℚ} (close : Close 2 x y) : Near x y :=
  ⟨.inl close.right, .inl close.left⟩

/-- A significand is multiplied by a power of ten. -/
theorem exists_roundsTo_scale_up {power : ℕ} (pos : 0 < n) (fits : n < 2 ^ 64)
    (small : power ≤ 308) :
    ∃ a b w, RoundsTo n a ∧ RoundsTo (10 ^ power) b ∧ RoundsTo (wordValue a * wordValue b) w ∧
      scale n power = ofMagnitude false (min infinity w) := by
  obtain ⟨a, significand, a_pos, a_less, found⟩ := exists_roundsTo_ofNat pos fits
  obtain ⟨b, factor, b_pos, b_less, ten⟩ := exists_roundsTo_powerOfTen small
  obtain ⟨w, rounds, product⟩ := exists_roundsTo_mul a_less b_less
  refine ⟨a, b, w, significand, factor, rounds, ?_⟩
  have nonzero := not_isZero_ofMagnitude a_pos a_less
  rw [scale, found]
  dsimp only
  rw [if_neg nonzero, if_neg (by omega), if_pos (by omega), Int.toNat_natCast, ten, product]

/-- A significand is divided by a power of ten. -/
theorem exists_roundsTo_scale_down {power : ℕ} (pos : 0 < n) (fits : n < 2 ^ 64)
    (some_ : 0 < power) (small : power ≤ 308) :
    ∃ a b w, RoundsTo n a ∧ RoundsTo (10 ^ power) b ∧ RoundsTo (wordValue a / wordValue b) w ∧
      scale n (-power) = ofMagnitude false (min infinity w) := by
  obtain ⟨a, significand, a_pos, a_less, found⟩ := exists_roundsTo_ofNat pos fits
  obtain ⟨b, factor, b_pos, b_less, ten⟩ := exists_roundsTo_powerOfTen small
  obtain ⟨w, rounds, quotient⟩ := exists_roundsTo_div a_less b_less b_pos
  refine ⟨a, b, w, significand, factor, rounds, ?_⟩
  have nonzero := not_isZero_ofMagnitude a_pos a_less
  have once : (power - 1) / 308 = 0 := by omega
  have all : (power - 1) % 308 + 1 = power := by omega
  rw [scale, found]
  dsimp only
  rw [if_neg nonzero, if_neg (by omega), if_neg (by omega), Int.neg_neg, Int.toNat_natCast, once,
    divideDown, if_neg nonzero, all, ten, quotient]

/-! ### Division in two steps

Below the normal range of powers of ten, a significand is divided by the largest of them first. The
double of this power is `0x11CCF385EBC8A0 * 2 ^ 971`. -/

/-- The double of the largest power of ten. -/
theorem exists_roundsTo_largest {shift : ℕ} (h : shift = 971) :
    ∃ w, 0 < w ∧ w < infinity ∧ powerOfTen 308 = ofMagnitude false w ∧
      wordValue w = 0x11CCF385EBC8A0 * 2 ^ shift := by
  obtain ⟨w, rounds, pos, less, found⟩ := exists_roundsTo_powerOfTen (le_refl 308)
  have word : w = 0x7FE1CCF385EBC8A0 := by
    have bits : powerOfTen 308 = ofMagnitude false 0x7FE1CCF385EBC8A0 := by decide +kernel
    have same := congrArg Binary64.magnitude (found.symm.trans bits)
    rwa [Binary64.magnitude_ofMagnitude (less.trans Binary64.infinity_lt),
      Binary64.magnitude_ofMagnitude (by decide)] at same
  refine ⟨w, pos, less, found, ?_⟩
  obtain ⟨places, smallest⟩ : ∃ places, places = 1074 := ⟨_, rfl⟩
  have scaled : wordScaled w = 0x11CCF385EBC8A0 * 2 ^ (shift + places) := by
    have unit : Binary64.wordUnit w = shift + places := by
      rw [word, h, smallest]
      decide
    rw [wordScaled, unit, word, h, smallest]
  rw [wordValue, scaled, tiny, ← smallest, pow_add]
  push_cast
  field_simp

theorem two_pow_mul_tiny {shift : ℕ} (h : shift = 971) : 2 ^ shift * tiny = 1 / 2 ^ 103 := by
  obtain ⟨places, smallest⟩ : ∃ places, places = 1074 := ⟨_, rfl⟩
  have sum : places = shift + 103 := by omega
  rw [tiny, ← smallest, sum, pow_add]
  field_simp

/-- It is above the power itself, and very near to it. -/
theorem largest_near {shift : ℕ} (h : shift = 971) :
    (largest : ℚ) ≤ 0x11CCF385EBC8A0 * 2 ^ shift ∧
      0x11CCF385EBC8A0 * 2 ^ shift * (1000 * 2 ^ 53) ≤ (largest : ℚ) * (1000 * 2 ^ 53 + 99) := by
  have above : largest ≤ 0x11CCF385EBC8A0 * 2 ^ shift := by
    rw [h]
    decide +kernel
  have near : 0x11CCF385EBC8A0 * 2 ^ shift * (1000 * 2 ^ 53) ≤ largest * (1000 * 2 ^ 53 + 99) := by
    rw [h]
    decide +kernel
  exact ⟨by exact_mod_cast above, by exact_mod_cast near⟩

/-- A wide significand is rounded before it is divided. When its quotient has as many places as
    itself, both roundings are small for it; else the second one is half as large. -/
theorem close_of_wide {n F f T z P Q : ℚ} (hz : 0 < z) (hQ : 0 < Q) (hP : P = 2 ^ 53 * z * Q)
    (hT : T ≤ 0x11CCF385EBC8A0 * z) (T_pos : 0 < T)
    (near : 0x11CCF385EBC8A0 * z * (1000 * 2 ^ 53) ≤ T * (1000 * 2 ^ 53 + 99))
    (wide : 2 ^ 53 * P ≤ n) (rounded : |F - n| ≤ P) (most : F ≤ 2 ^ 54 * P)
    (short : F / (0x11CCF385EBC8A0 * z) ≤ 2 ^ 54 * Q → |f - F / (0x11CCF385EBC8A0 * z)| ≤ Q)
    (long : F / (0x11CCF385EBC8A0 * z) ≤ 2 ^ 55 * Q → |f - F / (0x11CCF385EBC8A0 * z)| ≤ 2 * Q) :
    Close 2 (n / T) f := by
  have H_pos : 0 < 0x11CCF385EBC8A0 * z := by positivity
  have scaled (e : ℚ) (h : |f - F / (0x11CCF385EBC8A0 * z)| ≤ e) :
      |f * (0x11CCF385EBC8A0 * z) - F| ≤ e * (0x11CCF385EBC8A0 * z) := by
    have same : f * (0x11CCF385EBC8A0 * z) - F =
        (f - F / (0x11CCF385EBC8A0 * z)) * (0x11CCF385EBC8A0 * z) := by
      field_simp
    rw [same, abs_mul, abs_of_pos H_pos]
    exact mul_le_mul_of_nonneg_right h H_pos.le
  have product : P = 2 ^ 53 * (z * Q) := by rw [hP, mul_assoc]
  have width (c : ℚ) : c * Q * (0x11CCF385EBC8A0 * z) = c * 0x11CCF385EBC8A0 * (z * Q) := by ring
  have R_pos : 0 < z * Q := mul_pos hz hQ
  -- Together both roundings are 1.899 parts in `2 ^ 53` of the significand.
  have both : |f * (0x11CCF385EBC8A0 * z) - n| * (1000 * 2 ^ 53) ≤ 1899 * n := by
    have sum := abs_sub_le (f * (0x11CCF385EBC8A0 * z)) F n
    by_cases least : F ≤ 2 * 0x11CCF385EBC8A0 * P
    · have quotient : F / (0x11CCF385EBC8A0 * z) ≤ 2 ^ 54 * Q := by
        rw [div_le_iff₀ H_pos, width]
        linarith
      have second := scaled (1 * Q) ((short quotient).trans_eq (one_mul Q).symm)
      rw [width] at second
      linarith
    · have quotient : F / (0x11CCF385EBC8A0 * z) ≤ 2 ^ 55 * Q := by
        rw [div_le_iff₀ H_pos, width]
        linarith
      have second := scaled _ (long quotient)
      have wider : 2 * 0x11CCF385EBC8A0 * P - P ≤ n := by linarith [(abs_le.1 rounded).2]
      rw [width] at second
      linarith
  have pos : 0 < n := by linarith
  obtain ⟨low, high⟩ := abs_le.1 (le_div_iff₀ (by positivity) |>.2 both)
  have f_pos : 0 < f := by
    refine pos_of_mul_pos_left (b := 0x11CCF385EBC8A0 * z) ?_ H_pos.le
    linarith
  have down : f * T ≤ f * (0x11CCF385EBC8A0 * z) := mul_le_mul_of_nonneg_left hT f_pos.le
  have up : f * (0x11CCF385EBC8A0 * z * (1000 * 2 ^ 53)) ≤ f * (T * (1000 * 2 ^ 53 + 99)) :=
    mul_le_mul_of_nonneg_left near f_pos.le
  constructor
  · rw [div_le_iff₀ T_pos]
    unfold slack
    norm_num at *
    linarith
  · rw [div_mul_eq_mul_div, le_div_iff₀ T_pos]
    unfold slack
    norm_num at *
    linarith

theorem Near.div {x y t : ℚ} (near : Near x y) (one : 1 ≤ t) : Near (x / t) (y / t) := by
  have pos : 0 < t := by linarith
  have shorter : tiny / t ≤ tiny := div_le_self Binary64.tiny_pos.le one
  constructor
  · refine near.above.imp (fun h => ?_) fun h => ?_
    · rw [div_mul_eq_mul_div]
      exact div_le_div_of_nonneg_right h pos.le
    · have := div_le_div_of_nonneg_right h pos.le
      rw [add_div] at this
      linarith
  · refine near.below.imp (fun h => ?_) fun h => ?_
    · rw [div_mul_eq_mul_div]
      exact div_le_div_of_nonneg_right h pos.le
    · have := div_le_div_of_nonneg_right h pos.le
      rw [add_div] at this
      linarith

/-- A double that is an integer is read exactly. -/
theorem wordValue_eq_of_rounds {m shift : ℕ} (small : m ≤ 2 ^ 53)
    (rounds : RoundsTo (m * 2 ^ shift) w) : wordValue w = m * 2 ^ shift := by
  obtain ⟨top, value⟩ := Binary64.exists_wordValue small shift
  rw [← value] at rounds ⊢
  rw [rounds.unique (.self top)]

/-- A significand of at most 53 bits is read exactly. -/
theorem wordValue_ofNat (small : n ≤ 2 ^ 53) (rounds : RoundsTo n w) : wordValue w = n := by
  have same := @wordValue_eq_of_rounds w n 0 small
  rw [pow_zero, mul_one] at same
  exact same rounds

/-- So are the powers of ten up to the 22nd. -/
theorem wordValue_powerOfTen (small : n ≤ 22) (rounds : RoundsTo (10 ^ n) w) :
    wordValue w = 10 ^ n := by
  have odd : 5 ^ n ≤ 2 ^ 53 := (Nat.pow_le_pow_right (by decide) small).trans (by decide)
  have parts : (10 : ℚ) ^ n = (5 ^ n : ℕ) * 2 ^ n := by
    push_cast
    rw [← mul_pow]
    norm_num
  rw [parts] at rounds ⊢
  exact wordValue_eq_of_rounds odd rounds

theorem one_le_wordValue {x : ℚ} (rounds : RoundsTo x w) (one : 1 ≤ x) : 1 ≤ wordValue w := by
  obtain ⟨unit, value⟩ := Binary64.exists_wordValue (m := 1) (by decide) 0
  rw [Nat.cast_one, pow_zero, one_mul] at value
  rw [← value] at one ⊢
  exact Binary64.wordValue_strictMono.monotone (rounds.le_of_ge one)

section

variable {c shift : ℕ}

/-- A significand of few bits is not rounded, so only the quotient and the power of ten are. -/
theorem near_of_short (h : shift = 971) (three : 3 ≤ n)
    (rounds : RoundsTo (n / (0x11CCF385EBC8A0 * 2 ^ shift)) c) :
    Near (n / largest) (wordValue c) := by
  obtain ⟨above, near⟩ := largest_near h
  have T_pos : (0 : ℚ) < largest := Nat.cast_pos.2 largest_pos
  have shift_pos : (0 : ℚ) < 2 ^ shift := by positivity
  have normal : wordValue (2 ^ 52) ≤ n / (0x11CCF385EBC8A0 * 2 ^ shift) := by
    have least : (3 : ℚ) ≤ n := by exact_mod_cast three
    have places := two_pow_mul_tiny h
    rw [Binary64.RoundsTo.wordValue_normal, le_div_iff₀ (by positivity)]
    linarith
  have divisor : Close 1 (largest : ℚ) (0x11CCF385EBC8A0 * 2 ^ shift) := by
    constructor
    all_goals
      unfold slack
      linarith
  have quotient := (Close.refl (n : ℚ)).div divisor (by positivity) (by positivity) T_pos
    (by positivity)
  exact .of_close (quotient.trans (rounds.close normal))

/-- The quotient of one or two is below the normal range. -/
theorem near_of_tiny (h : shift = 971) (few : n ≤ 2)
    (rounds : RoundsTo (n / (0x11CCF385EBC8A0 * 2 ^ shift)) c) :
    Near (n / largest) (wordValue c) := by
  obtain ⟨above, near⟩ := largest_near h
  have T_pos : (0 : ℚ) < largest := Nat.cast_pos.2 largest_pos
  have H_pos : (0 : ℚ) < 0x11CCF385EBC8A0 * 2 ^ shift := by positivity
  have few : (n : ℚ) ≤ 2 := by exact_mod_cast few
  have places := two_pow_mul_tiny h
  have small : n / (0x11CCF385EBC8A0 * 2 ^ shift) ≤ 2 ^ 52 * 2 ^ 1 * tiny := by
    rw [div_le_iff₀ H_pos]
    linarith
  obtain ⟨low, high⟩ := abs_le.1 (rounds.abs_sub_le Nat.one_pos small)
  have less : (n : ℚ) / (0x11CCF385EBC8A0 * 2 ^ shift) ≤ n / largest :=
    div_le_div_of_nonneg_left (Nat.cast_nonneg n) T_pos above
  have more : (n : ℚ) / largest ≤
      n / (0x11CCF385EBC8A0 * 2 ^ shift) * ((1000 * 2 ^ 53 + 99) / (1000 * 2 ^ 53)) := by
    have positive : (0 : ℚ) ≤ n / (0x11CCF385EBC8A0 * 2 ^ shift) := by positivity
    have cancel : (n : ℚ) / (0x11CCF385EBC8A0 * 2 ^ shift) * (0x11CCF385EBC8A0 * 2 ^ shift) = n :=
      div_mul_cancel₀ _ H_pos.ne'
    have scaled := mul_le_mul_of_nonneg_left near positive
    rw [div_le_iff₀ T_pos]
    linarith
  have pos := Binary64.tiny_pos
  exact ⟨.inr (by linarith), .inr (by linarith)⟩

/-- A wide significand is rounded, too. -/
theorem near_of_wide (h : shift = 971) (wide : 2 ^ 53 ≤ n) (significand : RoundsTo n a)
    (rounds : RoundsTo (wordValue a / (0x11CCF385EBC8A0 * 2 ^ shift)) c) :
    Near (n / largest) (wordValue c) := by
  obtain ⟨above, near⟩ := largest_near h
  have nonzero : n ≠ 0 := by omega
  have large : 53 ≤ Nat.log2 n := (Nat.le_log2 nonzero).2 wide
  obtain ⟨log, bits⟩ : ∃ log, Nat.log2 n = log + 1 := ⟨Nat.log2 n - 1, by omega⟩
  have low : (2 : ℚ) ^ (log + 1) ≤ n := by
    have below := Nat.log2_self_le nonzero
    rw [bits] at below
    exact_mod_cast below
  have high : (n : ℚ) ≤ 2 ^ (log + 2) := by
    have below : n < 2 ^ (Nat.log2 n + 1) := Nat.lt_log2_self
    rw [bits] at below
    exact_mod_cast below.le
  have tiny_pos := Binary64.tiny_pos
  obtain ⟨unit, unit_eq⟩ : ∃ unit, unit = log + 1024 := ⟨_, rfl⟩
  have power : (2 : ℚ) ^ unit = 2 ^ 53 * 2 ^ shift * 2 ^ log := by
    rw [h, ← pow_add, ← pow_add]
    congr 1
    omega
  have last : (2 : ℚ) ^ shift * tiny = 1 / 2 ^ 103 := two_pow_mul_tiny h
  have whole : 2 ^ 53 * (2 ^ unit * tiny / 4) = (2 : ℚ) ^ (log + 1) := by
    have same : 2 ^ 53 * (2 ^ unit * tiny / 4) =
        (2 : ℚ) ^ 104 * 2 ^ log * (2 ^ shift * tiny) := by
      rw [power]
      ring
    rw [same, last, pow_succ]
    ring
  have double : (2 : ℚ) ^ (log + 2) = 2 * 2 ^ (log + 1) := pow_succ' ..
  refine .of_close (close_of_wide (F := wordValue a) (z := 2 ^ shift)
    (P := 2 ^ unit * tiny / 4) (Q := 2 ^ log * tiny / 4) ?_ ?_ ?_ above ?_ near ?_ ?_ ?_ ?_ ?_)
  · positivity
  · positivity
  · rw [power]
    ring
  · exact Nat.cast_pos.2 largest_pos
  · exact whole.trans_le low
  · refine significand.abs_sub_le (by omega) ?_
    linarith
  · obtain ⟨top, value⟩ := Binary64.exists_wordValue (m := 1) (by decide) (log + 2)
    rw [Nat.cast_one, one_mul] at value
    have below := significand.le_of_le (high.trans_eq value.symm)
    have most := Binary64.wordValue_strictMono.monotone below
    linarith
  · intro quotient
    refine rounds.abs_sub_le (by omega) ?_
    linarith
  · intro quotient
    have places : (2 : ℚ) ^ (log + 1) = 2 * 2 ^ log := pow_succ' ..
    refine (rounds.abs_sub_le (by omega : 0 < log + 1) ?_).trans_eq ?_
    · rw [places]
      linarith
    · rw [places]
      ring

/-- The quotient of a significand and the largest power of ten is finite and not zero. -/
theorem range_of_quotient (h : shift = 971) (pos : 0 < n) (fits : n < 2 ^ 64)
    (significand : RoundsTo n a)
    (quotient : RoundsTo (wordValue a / (0x11CCF385EBC8A0 * 2 ^ shift)) c) :
    0 < c ∧ c < infinity := by
  have one : (1 : ℚ) ≤ wordValue a := one_le_wordValue significand (by exact_mod_cast pos)
  have most : wordValue a ≤ 2 ^ 64 := by
    obtain ⟨top, value⟩ := Binary64.exists_wordValue (m := 1) (by decide) 64
    rw [Nat.cast_one, one_mul] at value
    rw [← value]
    refine Binary64.wordValue_strictMono.monotone (significand.le_of_le ?_)
    rw [value]
    exact_mod_cast fits.le
  have divisor_pos : (0 : ℚ) < 0x11CCF385EBC8A0 * 2 ^ shift := by positivity
  constructor
  · have places := two_pow_mul_tiny h
    refine pos_of_rounds quotient ((le_div_iff₀ divisor_pos).2 ?_)
    linarith
  · have room : 2 ^ 64 ≤ largest := by decide +kernel
    have room : ((2 ^ 64 : ℕ) : ℚ) ≤ largest := Nat.cast_le.2 room
    have above := (largest_near h).1
    push_cast at room
    refine lt_infinity quotient ((div_le_self (by linarith) (by linarith)).trans ?_)
    linarith

/-- What is left of a significand after one division is divided once more. -/
theorem scale_twice {power : ℕ} (found : Binary64.ofNat n = ofMagnitude false a)
    (ha : ¬(ofMagnitude false a).isZero = true)
    (down : (ofMagnitude false a).div (powerOfTen 308) = ofMagnitude false c)
    (hc : ¬(ofMagnitude false c).isZero = true) (some_ : 0 < power) (small : power ≤ 308) :
    scale n (-(308 + power : ℕ)) = (ofMagnitude false c).div (powerOfTen power) := by
  have once : (308 + power - 1) / 308 = 1 := by omega
  have rest : (308 + power - 1) % 308 + 1 = power := by omega
  rw [scale, found]
  dsimp only
  rw [if_neg ha, if_neg (by omega), if_neg (by omega), Int.neg_neg, Int.toNat_natCast, once,
    divideDown, if_neg ha, down, divideDown, if_neg hc, rest]

/-- A significand is divided by the largest power of ten and then by another one. -/
theorem exists_roundsTo_scale_twice {power : ℕ} (pos : 0 < n) (fits : n < 2 ^ 64)
    (some_ : 0 < power) (small : power ≤ 22) :
    ∃ y w, RoundsTo y w ∧ scale n (-(308 + power : ℕ)) = ofMagnitude false (min infinity w) ∧
      Near (n / largest / 10 ^ power) y := by
  obtain ⟨shift, h⟩ : ∃ shift, shift = 971 := ⟨_, rfl⟩
  obtain ⟨a, significand, a_pos, a_less, found⟩ := exists_roundsTo_ofNat pos fits
  obtain ⟨b, b_pos, b_less, first, divisor⟩ := exists_roundsTo_largest h
  obtain ⟨t, factor, t_pos, t_less, second⟩ := @exists_roundsTo_powerOfTen power (by omega)
  have exact_ : wordValue t = 10 ^ power := wordValue_powerOfTen small factor
  obtain ⟨c, quotient, down⟩ := exists_roundsTo_div a_less b_less b_pos
  rw [divisor] at quotient
  obtain ⟨c_pos, c_less⟩ := range_of_quotient h pos fits significand quotient
  rw [← first, Nat.min_eq_right c_less.le] at down
  obtain ⟨w, rounds, last⟩ := exists_roundsTo_div c_less t_less t_pos
  refine ⟨_, w, rounds, ?_, ?_⟩
  · rw [scale_twice found (not_isZero_ofMagnitude a_pos a_less) down
      (not_isZero_ofMagnitude c_pos c_less) some_ (by omega), second, last]
  · rw [exact_]
    refine Near.div ?_ (one_le_pow₀ (by norm_num))
    by_cases wide : 2 ^ 53 ≤ n
    · exact near_of_wide h wide significand quotient
    · rw [wordValue_ofNat (by omega) significand] at quotient
      by_cases three : 3 ≤ n
      · exact near_of_short h three quotient
      · exact near_of_tiny h (by omega) quotient

end

/-! ## Literals -/

/-- What a significand and a power of ten are read as is two doubles away from the nearest one at
    most; it is the nearest one if both of them are doubles themselves. -/
theorem exists_scale {power : ℤ} (pos : 0 < n) (fits : n < 2 ^ 64) (low : -324 ≤ power)
    (high : power ≤ 308) (meant : RoundsTo (Decimal.value ⟨n, power⟩) a) :
    ∃ w, scale n power = ofMagnitude false (min infinity w) ∧ w ≤ a + 2 ∧ a ≤ w + 2 ∧
      (n ≤ 2 ^ 53 → -22 ≤ power → power ≤ 22 → w = a) := by
  have one : (1 : ℚ) ≤ n := by exact_mod_cast pos
  have near {y : ℚ} {w : ℕ} (rounds : RoundsTo y w) (h : Near (Decimal.value ⟨n, power⟩) y) :
      w ≤ a + 2 ∧ a ≤ w + 2 :=
    ⟨meant.le_add_two rounds h.above, rounds.le_add_two meant h.below⟩
  have ten (k : ℕ) : (1 : ℚ) ≤ 10 ^ k := one_le_pow₀ (by norm_num)
  rcases lt_or_ge power 0 with negative | positive
  · obtain ⟨k, rfl⟩ : ∃ k : ℕ, power = -k := ⟨power.natAbs, by omega⟩
    have value : Decimal.value ⟨n, -k⟩ = n / 10 ^ k := by
      rw [Decimal.value, zpow_neg, zpow_natCast, ← div_eq_mul_inv]
    by_cases once : k ≤ 308
    · obtain ⟨x, y, w, significand, factor, rounds, read⟩ :=
        exists_roundsTo_scale_down pos fits (by omega) once
      have close : Close 2 ((n : ℚ) / 10 ^ k) (wordValue x / wordValue y) :=
        (close_of_one_le significand one).div (close_of_one_le factor (ten k)) (by positivity)
          (wordValue_pos (pos_of_one_le significand one)).le (by positivity)
          (wordValue_pos (pos_of_one_le factor (ten k)))
      obtain ⟨up, down⟩ := near rounds (value ▸ .of_close close)
      refine ⟨w, read, up, down, fun short least most => ?_⟩
      rw [wordValue_ofNat short significand, wordValue_powerOfTen (by omega) factor, ← value]
        at rounds
      exact rounds.unique meant
    · obtain ⟨rest, rfl⟩ : ∃ rest, k = 308 + rest := ⟨k - 308, by omega⟩
      obtain ⟨y, w, rounds, read, h⟩ :=
        @exists_roundsTo_scale_twice n rest pos fits (by omega) (by omega)
      have same : (n : ℚ) / largest / 10 ^ rest = n / 10 ^ (308 + rest) := by
        obtain ⟨zeros, h⟩ : ∃ zeros, zeros = 308 := ⟨_, rfl⟩
        rw [largest, ← h, div_div, pow_add, Nat.cast_pow, Nat.cast_ofNat]
      obtain ⟨up, down⟩ := near rounds (by rwa [value, ← same])
      exact ⟨w, read, up, down, by omega⟩
  · obtain ⟨k, rfl⟩ : ∃ k : ℕ, power = k := ⟨power.natAbs, by omega⟩
    have value : Decimal.value ⟨n, k⟩ = n * 10 ^ k := by rw [Decimal.value, zpow_natCast]
    obtain ⟨x, y, w, significand, factor, rounds, read⟩ :=
      @exists_roundsTo_scale_up n k pos fits (by omega)
    have close : Close 2 ((n : ℚ) * 10 ^ k) (wordValue x * wordValue y) :=
      (close_of_one_le significand one).mul (close_of_one_le factor (ten k)) (by positivity)
        (wordValue_pos (pos_of_one_le significand one)).le (by positivity)
        (wordValue_pos (pos_of_one_le factor (ten k))).le
    obtain ⟨up, down⟩ := near rounds (value ▸ .of_close close)
    refine ⟨w, read, up, down, fun short least most => ?_⟩
    rw [wordValue_ofNat short significand, wordValue_powerOfTen (by omega) factor, ← value]
      at rounds
    exact rounds.unique meant

end HomeBus.Json.Literal
