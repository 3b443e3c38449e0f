import HomeBus.Number.Shortest
import Mathlib.Algebra.Group.Nat.Defs
import Mathlib.Tactic.Common

/-!
# Shortest digits are found

A grid is fine enough for a double when the distance between its points is smaller than the distance
from the double to the end of its interval; then one of the points next to the double is inside.
The last of the grids that are tried is fine enough for every finite double.

Results:
* `gridPoint?_pos`: a grid point that is found is not zero.
* `isSome_gridPoint?`: a grid that is fine enough has a point.
* `shortest_found`: the shortest digits are those of the first grid that has a point.
* `shortest_digits_pos`: the shortest digits of a finite double that is not zero are not zero.
-/

namespace HomeBus.Binary64

variable {d : Binary64} {exponent : Int}

/-! ## Doubles and their intervals -/

theorem significand_pos (nonzero : d.isZero = false) : 0 < d.significand := by
  have : d.magnitude ≠ 0 := by simpa [isZero] using nonzero
  unfold significand
  split <;> omega

theorem significand_lt (d : Binary64) : d.significand < 2 ^ 53 := by
  unfold significand
  split
  · next subnormal =>
    unfold exponentField at subnormal
    omega
  · omega

theorem unit_lt (finite : d.isFinite = true) : d.unit < 2046 := by
  have : d.magnitude < infinity := by simpa [isFinite] using finite
  unfold unit exponentField
  unfold infinity at this
  omega

theorem scaled_eq (d : Binary64) : d.scaled = d.significand * 2 ^ d.unit := rfl

/-- The interval of a double that is not zero does not reach down to zero. -/
theorem lowerGap_lt (nonzero : d.isZero = false) : d.lowerGap < 4 * d.scaled := by
  have one : 1 * 2 ^ d.unit ≤ d.significand * 2 ^ d.unit :=
    Nat.mul_le_mul_right _ (significand_pos nonzero)
  have pos : 0 < 2 ^ d.unit := Nat.two_pow_pos _
  have gap : d.lowerGap ≤ 2 * 2 ^ d.unit := by
    unfold lowerGap
    split
    · exact Nat.le_mul_of_pos_left _ (by decide)
    · exact Nat.le_refl _
  rw [scaled_eq]
  omega

theorem log2_scaled_le (d : Binary64) : Nat.log2 d.scaled ≤ d.unit + 52 := by
  by_cases zero : d.scaled = 0
  · rw [zero]
    exact Nat.zero_le _
  · have below : d.scaled < 2 ^ (d.unit + 53) := by
      rw [scaled_eq, Nat.pow_add, Nat.mul_comm (2 ^ d.unit)]
      exact Nat.mul_lt_mul_of_pos_right (significand_lt d) (Nat.two_pow_pos _)
    exact Nat.le_of_lt_succ ((Nat.log2_lt zero).2 below)

/-! ## Points of grids -/

/-- A grid point that is found is not zero. -/
theorem gridPoint?_pos (nonzero : d.isZero = false) {n : ℕ}
    (found : d.gridPoint? exponent = some n) : 0 < n := by
  have gap := lowerGap_lt nonzero
  unfold gridPoint? at found
  extract_lets up step centre low high closed inside below above belowNearer at found
  have above_low (k : ℕ) (h : inside k = true) : low ≤ k * step := by
    simp only [inside] at h
    split at h <;> simp at h <;> omega
  have pos : 0 < low := Nat.mul_pos (Nat.sub_pos_of_lt gap) (Nat.pow_pos (by decide))
  have later : above = below + 1 := rfl
  clear_value inside low step above below belowNearer
  split at found
  · next here =>
    rw [Bool.and_eq_true] at here
    have := above_low below here.1
    obtain rfl := Option.some.inj found
    refine Nat.pos_of_ne_zero fun zero => ?_
    rw [zero, Nat.zero_mul] at this
    omega
  · split at found
    · obtain rfl := Option.some.inj found
      rw [later]
      exact Nat.succ_pos _
    · cases found

/-- A grid that is fine enough has a point in the interval of a double. -/
theorem isSome_gridPoint? {places : ℕ} (finest : places = 1076)
    (fine : Nat.pow 10 exponent.toNat * Nat.pow 2 places <
      2 * Nat.pow 2 d.unit * Nat.pow 10 (-exponent).toNat) :
    (d.gridPoint? exponent).isSome = true := by
  unfold gridPoint?
  rw [← finest]
  extract_lets up step centre low high closed inside below above belowNearer
  have room : centre + step < high := by
    simp only [high, centre, Nat.add_mul]
    exact Nat.add_lt_add_left fine _
  have pos : 0 < step := Nat.mul_pos (Nat.pow_pos (by decide)) (Nat.two_pow_pos _)
  have lower : low ≤ centre := Nat.mul_le_mul_right _ (Nat.sub_le _ _)
  -- the point above the double is at most one step away
  have next_ : centre < above * step ∧ above * step ≤ centre + step := by
    have split_ := Nat.div_add_mod' centre step
    have less := Nat.mod_lt centre pos
    simp only [above, below, Nat.add_mul, Nat.one_mul]
    omega
  have there : inside above = true := by
    simp only [inside]
    split <;> simp <;> omega
  clear_value inside above below belowNearer
  split <;> rfl

theorem ten_pow_le (n : ℕ) : 10 ^ n ≤ 2 ^ (10 * ((n + 2) / 3)) := by
  calc 10 ^ n ≤ 10 ^ (3 * ((n + 2) / 3)) := Nat.pow_le_pow_right (by decide) (by omega)
    _ = (10 ^ 3) ^ ((n + 2) / 3) := Nat.pow_mul ..
    _ ≤ (2 ^ 10) ^ ((n + 2) / 3) := Nat.pow_le_pow_left (by decide) _
    _ = 2 ^ (10 * ((n + 2) / 3)) := (Nat.pow_mul ..).symm

theorem le_ten_pow (n : ℕ) : 2 ^ (93 * (n / 28) + 3 * (n % 28)) ≤ 10 ^ n := by
  calc 2 ^ (93 * (n / 28) + 3 * (n % 28)) = (2 ^ 93) ^ (n / 28) * (2 ^ 3) ^ (n % 28) := by
        rw [Nat.pow_add, Nat.pow_mul, Nat.pow_mul]
    _ ≤ (10 ^ 28) ^ (n / 28) * 10 ^ (n % 28) :=
        Nat.mul_le_mul (Nat.pow_le_pow_left (by decide) _) (Nat.pow_le_pow_left (by decide) _)
    _ = 10 ^ n := by rw [← Nat.pow_mul, ← Nat.pow_add, Nat.div_add_mod]

/-- The last grid that is tried is fine enough for all doubles of that size. -/
theorem last_fine {log places : ℕ} (small : log < 2098) (finest : places = 1076) {last : Int}
    (tried : last = ((log : Int) - 1074) * 30103 / 100000 - 21) :
    Nat.pow 10 last.toNat * Nat.pow 2 places <
      2 * Nat.pow 2 (log - 52) * Nat.pow 10 (-last).toNat := by
  change 10 ^ last.toNat * 2 ^ places < 2 * 2 ^ (log - 52) * 10 ^ (-last).toNat
  rw [← Nat.pow_succ']
  by_cases negative : last < 0
  · have bound := le_ten_pow (-last).toNat
    calc 10 ^ last.toNat * 2 ^ places = 2 ^ places := by
          rw [Int.toNat_of_nonpos (Int.le_of_lt negative), Nat.pow_zero, Nat.one_mul]
      _ < 2 ^ (log - 52 + 1 + (93 * ((-last).toNat / 28) + 3 * ((-last).toNat % 28))) :=
          Nat.pow_lt_pow_right (by decide) (by omega)
      _ ≤ 2 ^ (log - 52 + 1) * 10 ^ (-last).toNat := by
          rw [Nat.pow_add]
          exact Nat.mul_le_mul_left _ bound
  · have bound := ten_pow_le last.toNat
    calc 10 ^ last.toNat * 2 ^ places ≤ 2 ^ (10 * ((last.toNat + 2) / 3)) * 2 ^ places :=
          Nat.mul_le_mul_right _ bound
      _ < 2 ^ (log - 52 + 1) := by
          rw [← Nat.pow_add]
          exact Nat.pow_lt_pow_right (by decide) (by omega)
      _ = 2 ^ (log - 52 + 1) * 10 ^ (-last).toNat := by
          rw [Int.toNat_of_nonpos (by omega : -last ≤ 0), Nat.pow_zero, Nat.mul_one]

/-! ## The search -/

/-- The search stops at the first grid that has a point, if one of the grids that it tries has. -/
theorem firstGrid_found {count step : ℕ} (tried : step < count)
    (found : (d.gridPoint? (exponent - step)).isSome = true) :
    ∃ digits last, d.firstGrid count exponent = ⟨digits, last⟩ ∧
      d.gridPoint? last = some digits ∧
      (last = exponent ∨ d.gridPoint? (last + 1) = none) := by
  induction count generalizing step exponent with
  | zero => cases tried
  | succ count ih =>
    rw [firstGrid]
    cases here : d.gridPoint? exponent with
    | some digits => exact ⟨digits, exponent, rfl, here, .inl rfl⟩
    | none =>
      cases step with
      | zero =>
        rw [Int.natCast_zero, Int.sub_zero, here] at found
        cases found
      | succ step =>
        have next : (d.gridPoint? (exponent - 1 - step)).isSome = true := by
          rwa [Int.sub_sub, Int.add_comm, ← Int.natCast_succ]
        obtain ⟨digits, last, read, point, first⟩ := ih (Nat.lt_of_succ_lt_succ tried) next
        refine ⟨digits, last, read, point, .inr ?_⟩
        rcases first with rfl | first
        · exact (congrArg d.gridPoint? (Int.sub_add_cancel exponent 1)).trans here
        · exact first

/-- The first grid that is tried. -/
def startExponent (d : Binary64) : Int :=
  ((Nat.log2 d.scaled : Int) - 1074) * 30103 / 100000 + 2

/-- The shortest digits are those of the first grid with a point. -/
theorem shortest_found (finite : d.isFinite = true) (nonzero : d.isZero = false) :
    d.gridPoint? d.shortest.exponent = some d.shortest.digits ∧
      (d.shortest.exponent = d.startExponent ∨
        d.gridPoint? (d.shortest.exponent + 1) = none) := by
  have small : Nat.log2 d.scaled < 2098 := by
    have := log2_scaled_le d
    have := unit_lt finite
    omega
  have near : 2 ^ (Nat.log2 d.scaled - 52) ≤ 2 ^ d.unit :=
    Nat.pow_le_pow_right (by decide) (Nat.sub_le_of_le_add (log2_scaled_le d))
  obtain ⟨places, finest⟩ : ∃ places, places = 1076 := ⟨_, rfl⟩
  have fine : (d.gridPoint? (d.startExponent - (23 : ℕ))).isSome = true := by
    refine isSome_gridPoint? finest ?_
    unfold startExponent
    exact Nat.lt_of_lt_of_le (last_fine small finest (by omega))
      (Nat.mul_le_mul_right _ (Nat.mul_le_mul_left 2 near))
  obtain ⟨digits, last, read, point, first⟩ := firstGrid_found (by decide : 23 < 24) fine
  have short : d.shortest = ⟨digits, last⟩ := by
    rw [shortest, nonzero, if_neg Bool.false_ne_true]
    exact read
  rw [short]
  exact ⟨point, first⟩

/-- The shortest digits of a finite double that is not zero are not zero. -/
theorem shortest_digits_pos (finite : d.isFinite = true) (nonzero : d.isZero = false) :
    0 < d.shortest.digits :=
  gridPoint?_pos nonzero (shortest_found finite nonzero).1

end HomeBus.Binary64
