import HomeBus.Proofs.Json.PrintedForm
import HomeBus.Proofs.Json.Scaling

/-!
# Doubles that were written

A finite double is written with the digits that identify it. The reader takes these digits for its
significand, together with the zero that an integer has behind its point, and scales them.

Results:
* `number_of_reads`: what is read of a literal, from its significand and its power of ten.
* `reads_magnitudeText`: the significand and the power of ten of a double that was written.
* `written_double`: what is read of a double that was written.
* `Binary64.reread_near`, `Binary64.reread_eq`: it is two doubles away from it at most, and is the
  same double if its digits are few.
-/

namespace HomeBus.Json

variable {cs : List Char} {ds : List ℕ} {rest : Bytes}

/-! ## Values of digits -/

namespace Literal

theorem digitsValue_append (front back : List ℕ) :
    digitsValue (front ++ back) = back.foldl (fun n digit => n * 10 + digit) (digitsValue front) :=
  List.foldl_append ..

theorem digitsValue_concat (ds : List ℕ) (d : ℕ) :
    digitsValue (ds ++ [d]) = digitsValue ds * 10 + d :=
  digitsValue_append ds [d]

theorem digitsValue_zeros_append (n : ℕ) (ds : List ℕ) :
    digitsValue (List.replicate n 0 ++ ds) = digitsValue ds := by
  induction n with
  | zero => rfl
  | succ n ih => exact ih

theorem digitsValue_append_zeros (ds : List ℕ) (n : ℕ) :
    digitsValue (ds ++ List.replicate n 0) = digitsValue ds * 10 ^ n := by
  induction n with
  | zero => rw [List.replicate_zero, List.append_nil, Nat.pow_zero, Nat.mul_one]
  | succ n ih =>
    rw [List.replicate_succ', ← List.append_assoc, digitsValue_concat, ih, Nat.add_zero,
      Nat.mul_assoc, Nat.pow_succ]

theorem digitsValue_lt (small : ∀ d ∈ ds, d < 10) : digitsValue ds < 10 ^ ds.length := by
  induction ds using List.reverseRecOn with
  | nil => exact Nat.one_pos
  | append_singleton ds d ih =>
    obtain ⟨front, last⟩ := List.forall_mem_append.1 small
    have here := last d List.mem_cons_self
    have before := ih front
    rw [digitsValue_concat, List.length_append, List.length_singleton, Nat.pow_succ]
    omega

/-- A literal with a point or a power of ten is scaled, if its digits fit in a machine word. -/
theorem number?_eq {literal : Literal}
    (scaled : ¬(literal.fraction = [] ∧ literal.exponent = none))
    (fits : digitsValue (literal.whole ++ literal.fraction) < 2 ^ 64) :
    literal.number? = Number.ofDouble? (signed literal.negative
      (scale (digitsValue (literal.whole ++ literal.fraction))
        (literal.writtenPower - literal.fraction.length))) := by
  rw [digitsValue_append] at fits ⊢
  have whole : accumulate 0 literal.whole = (digitsValue literal.whole, []) :=
    accumulate_eq ((le_foldl_digits literal.fraction _).trans_lt fits)
  have all := accumulate_eq fits
  unfold number?
  rw [whole]
  dsimp only
  rw [if_neg (fun h => scaled ⟨h.1, h.2.1⟩), all]
  dsimp only
  congr 3
  simp only [List.length_nil]
  omega

end Literal

/-! ## Literals that are written -/

/-- The digits of a text as numbers. -/
def values (cs : List Char) : List ℕ := cs.map fun c => c.toNat - 0x30

theorem figures_encode (h : Figures cs) : figures (Utf8.encode cs) = values cs := by
  induction cs with
  | nil => rfl
  | cons c cs ih =>
    obtain ⟨digit, h⟩ := List.forall_mem_cons.1 h
    have high : c.toNat - 0x30 < 10 := by
      have range : 0x30 ≤ c.toNat ∧ c.toNat ≤ 0x39 := by
        simpa [Char.isDigit, UInt32.le_iff_toNat_le] using digit
      omega
    have value := toNat_digitByte high
    rw [Utf8.encode_cons, encodeChar_of_isDigit digit, List.singleton_append, figures,
      List.map_cons, value, Nat.add_sub_cancel_left]
    exact congrArg _ (ih h)

/-- A text that is taken apart as a number with a significand and a power of ten, wherever it
    stands. -/
def Reads (m : Bytes) (d : Decimal) : Prop :=
  ∀ negative rest, Ends rest → ∃ literal,
    Literal.scan negative (m ++ rest) = .ok (literal, rest) ∧ literal.negative = negative ∧
      ¬(literal.fraction = [] ∧ literal.exponent = none) ∧
      Literal.digitsValue (literal.whole ++ literal.fraction) = d.digits ∧
      literal.writtenPower - literal.fraction.length = d.exponent

/-- What is read of a literal. -/
theorem number_of_reads {m : Bytes} {d : Decimal} (reads : Reads m d) (fits : d.digits < 2 ^ 64)
    (negative : Bool) (ends : Ends rest) {n : Number}
    (finite : Number.ofDouble? (Literal.signed negative (Literal.scale d.digits d.exponent)) =
      some n) : number negative (m ++ rest) = .ok (n, rest) := by
  obtain ⟨literal, scanned, sign, scaled, digits, power⟩ := reads negative rest ends
  rw [← digits] at fits
  have found : literal.number? = some n := by
    rw [Literal.number?_eq scaled fits, digits, power, sign, finite]
  rw [number, scanned]
  simp only [bind, Except.bind, found]

/-- The digits behind the point, with the point if there are any. -/
def pointed : List Char → List Char
  | [] => []
  | c :: cs => '.' :: c :: cs

theorem fraction_pointed (h : Figures cs) : Fraction (Utf8.encode (pointed cs)) := by
  cases cs with
  | nil => exact .none
  | cons c cs => exact fraction_encode h (List.cons_ne_nil c cs)

theorem figures_pointed (h : Figures cs) :
    figures ((Utf8.encode (pointed cs)).drop 1) = values cs := by
  cases cs with
  | nil => rfl
  | cons c cs => exact figures_encode h

/-- The number that a power of ten stands for. -/
def powerValue : Option (Bool × List ℕ) → ℤ
  | none => 0
  | some (true, digits) => -(Literal.digitsValue digits : ℤ)
  | some (false, digits) => Literal.digitsValue digits

/-- A number in its parts. -/
theorem reads_parts {whole fraction exponent : List Char} {power : Option (Bool × List ℕ)}
    (before : Whole (Utf8.encode whole)) (front : Figures whole) (back : Figures fraction)
    (after : Exponent (Utf8.encode exponent))
    (scanned : ∀ rest, Ends rest →
      Literal.scanExponent (Utf8.encode exponent ++ rest) = .ok (power, rest))
    (scaled : ¬(fraction = [] ∧ power = none)) :
    Reads (Utf8.encode (whole ++ pointed fraction ++ exponent))
      ⟨Literal.digitsValue (values (whole ++ fraction)), powerValue power - fraction.length⟩ := by
  intro negative rest ends
  have parts := scan_parts before (fraction_pointed back) after (scanned rest ends) negative ends
  rw [figures_encode front, figures_pointed back] at parts
  refine ⟨⟨negative, values whole, values fraction, power⟩, ?_, rfl, ?_, ?_, ?_⟩
  · rw [Utf8.encode_append, Utf8.encode_append, List.append_assoc (Utf8.encode whole)]
    exact parts
  · rintro ⟨none_, unscaled⟩
    exact scaled ⟨List.map_eq_nil_iff.1 none_, unscaled⟩
  · exact congrArg Literal.digitsValue (List.map_append ..).symm
  · have length : (values fraction).length = fraction.length := List.length_map _
    simp only [length]
    rcases power with _ | ⟨_ | _, digits⟩ <;> rfl

/-- A number with a point and no power of ten. -/
theorem reads_point {whole fraction : List Char} (before : Whole (Utf8.encode whole))
    (front : Figures whole) (back : Figures fraction) (some_ : fraction ≠ []) :
    Reads (Utf8.encode (whole ++ '.' :: fraction))
      ⟨Literal.digitsValue (values (whole ++ fraction)), -fraction.length⟩ := by
  have scanned (rest : Bytes) (ends : Ends rest) :
      Literal.scanExponent (Utf8.encode [] ++ rest) = .ok (none, rest) := by
    cases rest with
    | nil => rfl
    | cons b rest =>
      change Literal.scanExponent (b :: rest) = _
      rw [Literal.scanExponent, (ends b rfl).2.2, if_neg Bool.false_ne_true]
  have parts := @reads_parts whole fraction [] none before front back .none scanned
    fun h => some_ h.1
  obtain ⟨c, cs, rfl⟩ := List.exists_cons_of_ne_nil some_
  rw [List.append_nil, powerValue, Int.zero_sub] at parts
  exact parts

/-- A number with a power of ten. -/
theorem reads_power {whole fraction : List Char} (before : Whole (Utf8.encode whole))
    (front : Figures whole) (back : Figures fraction) (power : ℤ) :
    Reads (Utf8.encode (whole ++ pointed fraction ++
        'e' :: (if power < 0 then '-' else '+') :: natText power.natAbs))
      ⟨Literal.digitsValue (values (whole ++ fraction)), power - fraction.length⟩ := by
  have after : Exponent (Utf8.encode ('e' :: (if power < 0 then '-' else '+') ::
      natText power.natAbs)) := by
    refine exponent_encode (figures_natText _) (natText_ne_nil _) ?_
    split
    · exact .inr rfl
    · exact .inl rfl
  have scanned (rest : Bytes) (ends : Ends rest) :
      Literal.scanExponent (Utf8.encode ('e' :: (if power < 0 then '-' else '+') ::
        natText power.natAbs) ++ rest) =
        .ok (some (decide (power < 0), decimals power.natAbs), rest) := by
    have mark : isExponentMark 0x65 = true := by decide
    have all := figures_natText power.natAbs
    have read := digits_append_of_stops (allDigits_encode all) ends.stops
    rw [figures_encode all] at read
    have cons : decimals power.natAbs ≠ [] :=
      List.map_eq_nil_iff.not.2 (natText_ne_nil power.natAbs)
    change digits _ = (decimals power.natAbs, rest) at read
    obtain ⟨d, ds, split⟩ := List.exists_cons_of_ne_nil cons
    rw [split] at read ⊢
    by_cases negative : power < 0
    · rw [if_pos negative, decide_eq_true negative]
      change Literal.scanExponent (0x65 :: 0x2D :: (Utf8.encode (natText power.natAbs) ++ rest)) = _
      rw [Literal.scanExponent, if_pos mark, Literal.scanSign, if_neg (by decide), if_pos rfl]
      simp only [read]
    · rw [if_neg negative, decide_eq_false negative]
      change Literal.scanExponent (0x65 :: 0x2B :: (Utf8.encode (natText power.natAbs) ++ rest)) = _
      rw [Literal.scanExponent, if_pos mark, Literal.scanSign, if_pos rfl]
      simp only [read]
  have value : powerValue (some (decide (power < 0), decimals power.natAbs)) = power := by
    by_cases negative : power < 0
    · rw [decide_eq_true negative, powerValue, digitsValue_decimals]
      omega
    · rw [decide_eq_false negative, powerValue, digitsValue_decimals]
      omega
  have parts := reads_parts before front back after scanned fun h => Option.some_ne_none _ h.2
  rwa [value] at parts

/-! ## Decimal numbers that are written -/

section

variable {d : Decimal}

theorem values_append (front back : List Char) :
    values (front ++ back) = values front ++ values back :=
  List.map_append ..

theorem values_digitChars (d : Decimal) : values d.digitChars = decimals d.digits := rfl

theorem values_replicate (n : ℕ) : values (List.replicate n '0') = List.replicate n 0 :=
  List.map_replicate ..

/-- An integer with all its places written out. -/
theorem reads_integer (pos : 0 < d.digits) (places : ℕ) :
    Reads (Utf8.encode (d.digitChars ++ List.replicate places '0' ++ ['.', '0']))
      ⟨d.digits * 10 ^ (places + 1), -1⟩ := by
  obtain ⟨c, cs, digits, figures, nonzero⟩ := exists_digitChars pos
  have all : Figures (d.digitChars ++ List.replicate places '0') :=
    figures_append.2 ⟨digits ▸ figures, figures_replicate places⟩
  have whole : Whole (Utf8.encode (d.digitChars ++ List.replicate places '0')) := by
    rw [digits, List.cons_append] at all ⊢
    exact whole_encode all nonzero
  have read := reads_point whole all (figures_replicate 1) (List.cons_ne_nil _ _)
  rw [values_append, values_append, values_digitChars, values_replicate, values_replicate,
    Literal.digitsValue_append_zeros, Literal.digitsValue_append_zeros, digitsValue_decimals,
    Nat.mul_assoc, ← Nat.pow_add] at read
  exact read

/-- A number with its point between or before its digits. -/
theorem reads_fraction (pos : 0 < d.digits) (negative : d.exponent < 0) :
    Reads (Utf8.encode d.positional) d := by
  obtain ⟨c, cs, digits, figures, nonzero⟩ := exists_digitChars pos
  obtain ⟨places, exponent⟩ : ∃ places, (-d.exponent).toNat = places := ⟨_, rfl⟩
  have value : values (c :: cs) = decimals d.digits := by rw [← values_digitChars, digits]
  unfold Decimal.positional
  rw [digits, exponent]
  dsimp only
  rw [if_neg (by omega)]
  split_ifs with inside
  · obtain ⟨before, split⟩ : ∃ before, (c :: cs).length - places = before + 1 :=
      Nat.exists_eq_succ_of_ne_zero (Nat.sub_ne_zero_of_lt inside)
    have parts := figures
    rw [← List.take_append_drop (before + 1) (c :: cs), figures_append] at parts
    have whole : Whole (Utf8.encode ((c :: cs).take (before + 1))) := by
      rw [List.take_succ_cons] at parts ⊢
      exact whole_encode parts.1 nonzero
    have some_ : (c :: cs).drop (before + 1) ≠ [] := by
      rw [Ne, List.drop_eq_nil_iff]
      omega
    have read := reads_point whole parts.1 parts.2 some_
    have power : -(((c :: cs).drop (before + 1)).length : ℤ) = d.exponent := by
      rw [List.length_drop]
      omega
    rw [List.take_append_drop, value, digitsValue_decimals, power] at read
    rw [split]
    exact read
  · have all : Figures (List.replicate (places - (c :: cs).length) '0' ++ c :: cs) :=
      figures_append.2 ⟨figures_replicate _, figures⟩
    have read := @reads_point (List.replicate 1 '0') _ .zero (figures_replicate 1) all (by simp)
    have power : -((List.replicate (places - (c :: cs).length) '0' ++ c :: cs).length : ℤ) =
        d.exponent := by
      rw [List.length_append, List.length_replicate]
      omega
    rw [values_append, values_append, values_replicate, values_replicate,
      Literal.digitsValue_zeros_append, Literal.digitsValue_zeros_append, value,
      digitsValue_decimals, power] at read
    exact read

/-- A number with a power of ten. -/
theorem reads_scientific (pos : 0 < d.digits) : Reads (Utf8.encode d.scientific) d := by
  obtain ⟨c, cs, digits, figures, nonzero⟩ := exists_digitChars pos
  obtain ⟨digit, tail⟩ := List.forall_mem_cons.1 figures
  have first : Figures [c] := List.forall_mem_singleton.2 digit
  have read := reads_power (whole_encode first nonzero) first tail d.leading
  have value : values ([c] ++ cs) = decimals d.digits := by
    rw [← values_digitChars, digits]
    rfl
  have power : d.leading - cs.length = d.exponent := by
    rw [Decimal.leading, digits, List.length_cons]
    omega
  rw [value, digitsValue_decimals, power] at read
  unfold Decimal.scientific
  rw [digits]
  cases cs with
  | nil => exact read
  | cons next more => exact read

/-- The significand and the power of ten that are read of a decimal number that was written: an
    integer with all its places has one more, behind the point. -/
def asRead (d : Decimal) : Decimal :=
  if 0 ≤ d.exponent ∧ d.leading < 16 then ⟨d.digits * 10 ^ (d.exponent.toNat + 1), -1⟩ else d

theorem value_asRead (d : Decimal) : (asRead d).value = d.value := by
  unfold asRead
  split_ifs with integer
  · obtain ⟨places, exponent⟩ : ∃ places : ℕ, d.exponent = places :=
      ⟨d.exponent.toNat, by omega⟩
    rw [Decimal.value, Decimal.value, exponent, Int.toNat_natCast, zpow_natCast, zpow_neg_one]
    push_cast
    rw [pow_succ, mul_assoc, mul_assoc, mul_inv_cancel₀ (by norm_num), mul_one]
  · rfl

/-- The significand fits in a machine word if the digits do. -/
theorem digits_asRead_lt (fits : d.digits < 2 ^ 64) : (asRead d).digits < 2 ^ 64 := by
  unfold asRead
  split_ifs with integer
  · have few := Literal.digitsValue_lt fun _ => lt_of_mem_decimals (n := d.digits)
    have length : (decimals d.digits).length = d.digitChars.length := List.length_map _
    rw [digitsValue_decimals, length] at few
    have room : d.digitChars.length + (d.exponent.toNat + 1) ≤ 17 := by
      have last := integer.2
      unfold Decimal.leading at last
      omega
    calc d.digits * 10 ^ (d.exponent.toNat + 1)
        ≤ 10 ^ d.digitChars.length * 10 ^ (d.exponent.toNat + 1) := Nat.mul_le_mul_right _ few.le
      _ ≤ 10 ^ 17 := by
          rw [← Nat.pow_add]
          exact Nat.pow_le_pow_right (by decide) room
      _ < 2 ^ 64 := by decide
  · exact fits

/-- What is read of a decimal number that was written. -/
theorem reads_magnitudeText (pos : 0 < d.digits) :
    Reads (Utf8.encode (magnitudeText d)) (asRead d) := by
  have some_ : 0 < d.digitChars.length := List.length_pos_iff.2 (natText_ne_nil d.digits)
  unfold magnitudeText asRead
  by_cases integer : 0 ≤ d.exponent ∧ d.leading < 16
  · have places : -5 ≤ d.leading ∧ d.leading < 16 := by
      have := integer.1
      have := integer.2
      unfold Decimal.leading at *
      omega
    rw [if_pos integer, if_pos places, Decimal.positional, if_pos integer.1]
    exact reads_integer pos d.exponent.toNat
  · rw [if_neg integer]
    split_ifs with places
    · exact reads_fraction pos (by omega)
    · exact reads_scientific pos

theorem reads_zero : Reads (Utf8.encode (magnitudeText ⟨0, 0⟩)) (asRead ⟨0, 0⟩) :=
  @reads_point (List.replicate 1 '0') _ .zero (figures_replicate 1) (figures_replicate 1)
    (List.cons_ne_nil _ _)

end

/-- A significand of zero stays zero. -/
theorem Literal.scale_zero (power : ℤ) : scale 0 power = Binary64.ofMagnitude false 0 := by
  have none_ : Binary64.ofNat 0 = Binary64.ofMagnitude false 0 := by decide +kernel
  rw [scale, none_]
  exact if_pos rfl

theorem Literal.signed_ofMagnitude (negative : Bool) {w : ℕ} (small : w < 2 ^ 63) :
    signed negative (Binary64.ofMagnitude false w) = Binary64.ofMagnitude negative w := by
  cases negative with
  | false => rfl
  | true =>
    rw [signed, if_pos rfl, Binary64.neg, Binary64.isNegative_ofMagnitude small,
      Binary64.magnitude_ofMagnitude small]
    rfl

end HomeBus.Json

/-! ## Doubles -/

namespace HomeBus.Binary64

open Json (asRead digits_asRead_lt value_asRead)

/-- What the text of a double is read as. -/
def reread (d : Binary64) : Binary64 :=
  Json.Literal.signed d.isNegative
    (Json.Literal.scale (asRead d.shortest).digits (asRead d.shortest).exponent)

variable {d : Binary64}

theorem shortest_eq_zero (zero : d.isZero = true) : d.shortest = ⟨0, 0⟩ := if_pos zero

/-- The power of ten that is read is in the range of doubles. -/
theorem exponent_asRead_mem (finite : d.isFinite = true) (nonzero : d.isZero = false) :
    -324 ≤ (asRead d.shortest).exponent ∧ (asRead d.shortest).exponent ≤ 308 := by
  have low := le_shortest_exponent finite nonzero
  have high := shortest_exponent_le finite nonzero
  unfold asRead
  split_ifs
  · exact ⟨(by decide : (-324 : ℤ) ≤ -1), (by decide : (-1 : ℤ) ≤ 308)⟩
  · exact ⟨low, high⟩

/-- The significand that is read fits in a machine word. -/
theorem significand_asRead_lt (finite : d.isFinite = true) (nonzero : d.isZero = false) :
    (asRead d.shortest).digits < 2 ^ 64 :=
  digits_asRead_lt ((shortest_digits_lt finite nonzero).trans (by decide))

/-- What is read has the same sign, and a magnitude word two words away at most. -/
theorem exists_reread (finite : d.isFinite = true) :
    ∃ w, d.reread = ofMagnitude d.isNegative (min infinity w) ∧
      w ≤ d.magnitude + 2 ∧ d.magnitude ≤ w + 2 ∧
      ((asRead d.shortest).digits ≤ 2 ^ 53 → -22 ≤ (asRead d.shortest).exponent →
        (asRead d.shortest).exponent ≤ 22 → w = d.magnitude) := by
  cases zero : d.isZero with
  | true =>
    have none_ : d.magnitude = 0 := of_decide_eq_true zero
    have digits : (asRead d.shortest).digits = 0 := by
      rw [shortest_eq_zero zero]
      decide
    refine ⟨0, ?_, by omega, by omega, fun _ _ _ => none_.symm⟩
    rw [reread, digits, Json.Literal.scale_zero, Json.Literal.signed_ofMagnitude _ (by decide),
      Nat.min_zero]
  | false =>
    have pos := shortest_digits_pos finite zero
    have some_ : 0 < (asRead d.shortest).digits := by
      unfold asRead
      split_ifs
      · exact Nat.mul_pos pos (Nat.pow_pos (by decide))
      · exact pos
    have fits := significand_asRead_lt finite zero
    obtain ⟨low, high⟩ := exponent_asRead_mem finite zero
    have meant := roundsTo_shortest finite zero
    rw [← value_asRead] at meant
    obtain ⟨w, read, up, down, same⟩ := Json.Literal.exists_scale some_ fits low high meant
    refine ⟨w, ?_, up, down, same⟩
    have small := infinity_lt
    rw [reread, read, Json.Literal.signed_ofMagnitude _ (by omega)]

theorem isFinite_ofMagnitude {negative : Bool} {w : ℕ} (less : w < infinity) :
    (ofMagnitude negative w).isFinite = true := by
  rw [isFinite, magnitude_ofMagnitude (less.trans infinity_lt)]
  exact decide_eq_true less

/-- The two largest doubles of each sign are read as finite ones. -/
theorem isFinite_reread_largest (negative : Bool) :
    (ofMagnitude negative (infinity - 2)).reread.isFinite = true ∧
      (ofMagnitude negative (infinity - 1)).reread.isFinite = true := by
  cases negative <;> decide +kernel

/-- A finite double is read as a finite one. -/
theorem isFinite_reread (finite : d.isFinite = true) : d.reread.isFinite = true := by
  have less := magnitude_lt finite
  by_cases inner : d.magnitude + 2 < infinity
  · obtain ⟨w, read, up, -⟩ := exists_reread finite
    rw [read]
    exact isFinite_ofMagnitude (by omega)
  · have last : d.magnitude = infinity - 2 ∨ d.magnitude = infinity - 1 := by omega
    rw [← ofMagnitude_magnitude d]
    rcases last with last | last
    · rw [last]
      exact (isFinite_reread_largest d.isNegative).1
    · rw [last]
      exact (isFinite_reread_largest d.isNegative).2

/-- What is read of a finite double is near to it. -/
theorem reread_near (finite : d.isFinite = true) :
    d.reread.isNegative = d.isNegative ∧ d.reread.magnitude ≤ d.magnitude + 2 ∧
      d.magnitude ≤ d.reread.magnitude + 2 := by
  obtain ⟨w, read, up, down, -⟩ := exists_reread finite
  have less := magnitude_lt finite
  have small := infinity_lt
  have bound : min infinity w < 2 ^ 63 := by omega
  rw [read, isNegative_ofMagnitude bound, magnitude_ofMagnitude bound]
  exact ⟨rfl, by omega, by omega⟩

/-- It may be two doubles away: 2.0670599012117374e-109 is read as 2.0670599012117379e-109. -/
example : reread ⟨0x295F11BDAD078F04⟩ = ⟨0x295F11BDAD078F06⟩ := by decide +kernel

/-- A double whose significand and power of ten are doubles themselves is read as the same one. -/
theorem reread_eq (finite : d.isFinite = true) (short : (asRead d.shortest).digits ≤ 2 ^ 53)
    (low : -22 ≤ (asRead d.shortest).exponent) (high : (asRead d.shortest).exponent ≤ 22) :
    d.reread = d := by
  obtain ⟨w, read, -, -, same⟩ := exists_reread finite
  obtain rfl := same short low high
  have less := magnitude_lt finite
  rw [read, Nat.min_eq_right less.le, ofMagnitude_magnitude]

end HomeBus.Binary64

namespace HomeBus.Json

variable {d : Binary64} {rest : Bytes}

/-- What is read of the text of a double behind its sign. -/
theorem number_magnitudeText (finite : d.isFinite = true) (ends : Ends rest) :
    number d.isNegative (Utf8.encode (magnitudeText d.shortest) ++ rest) =
      .ok (.double d.reread (Binary64.isFinite_reread finite), rest) := by
  have found : Number.ofDouble? d.reread =
      some (.double d.reread (Binary64.isFinite_reread finite)) :=
    dif_pos (Binary64.isFinite_reread finite)
  cases zero : d.isZero with
  | true =>
    have reads := reads_zero
    rw [← Binary64.shortest_eq_zero zero] at reads
    refine number_of_reads reads ?_ d.isNegative ends found
    rw [Binary64.shortest_eq_zero zero]
    decide
  | false =>
    have reads := reads_magnitudeText (Binary64.shortest_digits_pos finite zero)
    have fits := Binary64.significand_asRead_lt finite zero
    exact number_of_reads reads fits d.isNegative ends found

/-- What is read of a double that was written. -/
theorem written_double (room : ℕ) (finite : d.isFinite = true) (ends : Ends rest) :
    Reader.written room (bytes (.num (.double d finite)) ++ rest) =
      .ok (.num (.double d.reread (Binary64.isFinite_reread finite)), rest) := by
  have read := number_magnitudeText finite ends
  rw [bytes_double]
  by_cases negative : d.isNegative = true
  · rw [negative] at read
    rw [if_pos negative, List.cons_append]
    exact Reader.written_eq_ok_iff.2 ⟨_, _, rfl, .negative read⟩
  · obtain ⟨b, tail, front, digit⟩ := (magnitude_magnitudeText finite).eq_cons
    rw [Bool.eq_false_iff.2 negative, front, List.cons_append] at read
    rw [if_neg negative, front, List.cons_append]
    exact Reader.written_eq_ok_iff.2
      ⟨_, _, skipBlank_of_isBlank (isBlank_of_isDigit digit) _, .number digit read⟩

end HomeBus.Json
