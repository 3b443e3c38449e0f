import HomeBus.Json.Scan
import HomeBus.Proofs.Outcome
import HomeBus.Proofs.Text.Utf8

/-!
# Integers in JSON texts

`decimals` are the digits of a natural number. A number literal has no closing mark, so it is read
back only where it `Ends`: what follows must not go on with it.

Results:
* `number_natText`, `number_negative`: an integer that was written is read back.
* `skipNumber_of_number`: a number that can be read can be passed over, up to the same place.
-/

namespace HomeBus.Json

/-! ## Decimal digits -/

/-- The decimal digits of a natural number, the highest one first. -/
def decimals (n : ℕ) : List ℕ := (natText n).map fun c => c.toNat - 0x30

/-- The byte of a decimal digit. -/
def digitByte (d : ℕ) : UInt8 := (0x30 + d).toUInt8

theorem decimals_of_lt {n : ℕ} (h : n < 10) : decimals n = [n] := by
  rw [decimals, natText, Nat.toDigits_of_lt_base h, List.map_singleton,
    Nat.toNat_digitChar_sub_48_of_lt_ten h]

theorem decimals_of_le {n : ℕ} (h : 10 ≤ n) : decimals n = decimals (n / 10) ++ [n % 10] := by
  rw [decimals, natText, Nat.toDigits_of_base_le (by decide) h, List.map_append, List.map_singleton,
    Nat.toNat_digitChar_sub_48_of_lt_ten (Nat.mod_lt n (by decide))]
  rfl

theorem lt_of_mem_decimals {n d : ℕ} (mem : d ∈ decimals n) : d < 10 := by
  induction n using Nat.strongRecOn with
  | _ n ih =>
    by_cases small : n < 10
    · rw [decimals_of_lt small, List.mem_singleton] at mem
      omega
    · rw [decimals_of_le (by omega), List.mem_append, List.mem_singleton] at mem
      rcases mem with mem | rfl
      · exact ih (n / 10) (by omega) mem
      · exact Nat.mod_lt n (by decide)

/-- The digits denote the number. -/
theorem digitsValue_decimals (n : ℕ) : Literal.digitsValue (decimals n) = n := by
  induction n using Nat.strongRecOn with
  | _ n ih =>
    by_cases small : n < 10
    · rw [decimals_of_lt small]
      simp [Literal.digitsValue]
    · have front := ih (n / 10) (by omega)
      rw [Literal.digitsValue] at front
      rw [decimals_of_le (by omega), Literal.digitsValue, List.foldl_append, front]
      simp only [List.foldl_cons, List.foldl_nil]
      omega

/-- Only zero starts with a zero. -/
theorem decimals_eq_cons {n : ℕ} (pos : 0 < n) :
    ∃ d ds, decimals n = d :: ds ∧ 0 < d ∧ d < 10 := by
  induction n using Nat.strongRecOn with
  | _ n ih =>
    by_cases small : n < 10
    · exact ⟨n, [], decimals_of_lt small, pos, small⟩
    · obtain ⟨d, ds, front, first⟩ := ih (n / 10) (by omega) (by omega)
      exact ⟨d, ds ++ [n % 10], by rw [decimals_of_le (by omega), front, List.cons_append], first⟩

/-- A character that is a digit is the byte of that digit. -/
theorem encodeChar_of_isDigit {c : Char} (h : c.isDigit = true) :
    Utf8.encodeChar c = [digitByte (c.toNat - 0x30)] := by
  simp only [Char.isDigit, ge_iff_le, Bool.and_eq_true, decide_eq_true_eq, UInt32.le_iff_toNat_le]
    at h
  have low : 0x30 ≤ c.toNat := h.1
  have high : c.toNat ≤ 0x39 := h.2
  rw [Utf8.encodeChar_of_lt (by omega), digitByte, Nat.add_sub_cancel' low]

theorem encode_natText (n : ℕ) : Utf8.encode (natText n) = (decimals n).map digitByte := by
  have digit : ∀ c ∈ natText n, c.isDigit = true := fun c mem =>
    Nat.isDigit_of_mem_toDigits (by decide) (by decide) mem
  rw [decimals]
  generalize natText n = cs at digit
  induction cs with
  | nil => rfl
  | cons c cs ih =>
    obtain ⟨first, digit⟩ := List.forall_mem_cons.1 digit
    rw [Utf8.encode_cons, encodeChar_of_isDigit first, ih digit]
    rfl

/-! ## Reading digits -/

theorem toNat_digitByte {d : ℕ} (h : d < 10) : (digitByte d).toNat = 0x30 + d :=
  Utf8.toNat_toUInt8 (by omega)

theorem isDigit_digitByte {d : ℕ} (h : d < 10) : isDigit (digitByte d) = true := by
  simp only [isDigit, Bool.and_eq_true, decide_eq_true_eq, UInt8.le_iff_toNat_le,
    toNat_digitByte h]
  exact ⟨Nat.le_add_right _ _, Nat.add_le_add_left (Nat.le_of_lt_succ h) _⟩

/-- Whether a number literal ends before a text: no digit, point or power of ten follows. -/
def Ends (rest : Bytes) : Prop :=
  ∀ b ∈ rest.head?, isDigit b = false ∧ b ≠ 0x2E ∧ isExponentMark b = false

theorem digits_of_ends {rest : Bytes} (ends : Ends rest) : digits rest = ([], rest) := by
  cases rest with
  | nil => rfl
  | cons b rest =>
    rw [digits, if_neg]
    rw [(ends b rfl).1]
    exact Bool.false_ne_true

theorem digits_append {ds : List ℕ} (small : ∀ d ∈ ds, d < 10) {rest : Bytes} (ends : Ends rest) :
    digits (ds.map digitByte ++ rest) = (ds, rest) := by
  induction ds with
  | nil => exact digits_of_ends ends
  | cons d ds ih =>
    obtain ⟨first, small⟩ := List.forall_mem_cons.1 small
    rw [List.map_cons, List.cons_append, digits, if_pos (isDigit_digitByte first), ih small,
      toNat_digitByte first]
    simp

theorem le_foldl_digits (ds : List ℕ) (s : ℕ) :
    s ≤ ds.foldl (fun n d => n * 10 + d) s := by
  induction ds generalizing s with
  | nil => exact Nat.le_refl s
  | cons d ds ih => exact Nat.le_trans (by omega) (ih (s * 10 + d))

/-- As long as it fits, a significand takes all digits. -/
theorem accumulate_eq {s : ℕ} {ds : List ℕ}
    (fits : ds.foldl (fun n d => n * 10 + d) s < 0x1_0000_0000_0000_0000) :
    Literal.accumulate s ds = (ds.foldl (fun n d => n * 10 + d) s, []) := by
  induction ds generalizing s with
  | nil => rfl
  | cons d ds ih =>
    rw [List.foldl_cons] at fits
    rw [Literal.accumulate, if_pos (Nat.lt_of_le_of_lt (le_foldl_digits ds _) fits), ih fits,
      List.foldl_cons]

/-! ## Integers as they are written -/

theorem scanWhole_natText (n : ℕ) {rest : Bytes} (ends : Ends rest) :
    Literal.scanWhole (Utf8.encode (natText n) ++ rest) = .ok (decimals n, rest) := by
  rw [encode_natText]
  rcases Nat.eq_zero_or_pos n with rfl | pos
  · rw [decimals_of_lt (by decide), List.map_singleton, List.singleton_append,
      Literal.scanWhole.eq_def]
    simp only
    rw [if_pos (by decide)]
    cases rest with
    | nil => rfl
    | cons b rest => simp only [(ends b rfl).1, Bool.false_eq_true, ↓reduceIte]
  · have all := digits_append (fun d => lt_of_mem_decimals (n := n)) ends
    obtain ⟨d, ds, front, first, last⟩ := decimals_eq_cons pos
    have digit := isDigit_digitByte last
    have nonzero : digitByte d ≠ 0x30 := fun same => by
      have := toNat_digitByte last
      rw [same] at this
      have : 0x30 = 0x30 + d := this
      omega
    rw [front, List.map_cons, List.cons_append] at all ⊢
    rw [Literal.scanWhole.eq_def]
    simp only
    rw [if_neg nonzero, if_pos digit, all]

theorem scan_natText (negative : Bool) (n : ℕ) {rest : Bytes} (ends : Ends rest) :
    Literal.scan negative (Utf8.encode (natText n) ++ rest) =
      .ok (⟨negative, decimals n, [], none⟩, rest) := by
  have fraction : Literal.scanFraction rest = .ok ([], rest) := by
    cases rest with
    | nil => rfl
    | cons b rest => rw [Literal.scanFraction, if_neg (ends b rfl).2.1]
  have exponent : Literal.scanExponent rest = .ok (none, rest) := by
    cases rest with
    | nil => rfl
    | cons b rest =>
      rw [Literal.scanExponent, (ends b rfl).2.2, if_neg Bool.false_ne_true]
  rw [Literal.scan, scanWhole_natText n ends]
  simp only [bind, Except.bind, fraction, exponent]
  rfl

/-- The digits of a number that fits in 64 bits are an integer. -/
theorem accumulate_decimals {n : ℕ} (fits : n < 0x1_0000_0000_0000_0000) :
    Literal.accumulate 0 (decimals n) = (n, []) := by
  have value := digitsValue_decimals n
  rw [Literal.digitsValue] at value
  rw [accumulate_eq (by rwa [value]), value]

/-- An unsigned integer that was written is read back. -/
theorem number_natText {n : ℕ}
    (range : -0x8000_0000_0000_0000 ≤ (n : Int) ∧ (n : Int) < 0x1_0000_0000_0000_0000)
    {rest : Bytes} (ends : Ends rest) :
    number false (Utf8.encode (natText n) ++ rest) = .ok (Number.int (n : Int) range, rest) := by
  have value : Literal.number? ⟨false, decimals n, [], none⟩ =
      some (Number.int (n : Int) range) := by
    simp only [Literal.number?, accumulate_decimals (show n < 0x1_0000_0000_0000_0000 by omega),
      and_self, ↓reduceIte, Bool.false_eq_true, Number.ofInt?, range]
    rfl
  rw [number, scan_natText false n ends]
  simp only [bind, Except.bind, value]

/-- A negative integer that was written is read back. -/
theorem number_negative {n : ℕ} (pos : 0 < n)
    (range : -0x8000_0000_0000_0000 ≤ -(n : Int) ∧ -(n : Int) < 0x1_0000_0000_0000_0000)
    {rest : Bytes} (ends : Ends rest) :
    number true (Utf8.encode (natText n) ++ rest) = .ok (Number.int (-(n : Int)) range, rest) := by
  have value : Literal.number? ⟨true, decimals n, [], none⟩ =
      some (Number.int (-(n : Int)) range) := by
    simp only [Literal.number?, accumulate_decimals (show n < 0x1_0000_0000_0000_0000 by omega),
      and_self, ↓reduceIte]
    rw [if_neg (by omega), Number.ofInt?, dif_pos range]
  rw [number, scan_natText true n ends]
  simp only [bind, Except.bind, value]

/-! ## Numbers that are passed over -/

theorem length_digits (bytes : Bytes) :
    (digits bytes).1.length + (digits bytes).2.length = bytes.length := by
  induction bytes with
  | nil => rfl
  | cons b rest ih =>
    rw [digits]
    split_ifs with digit
    · simp only [List.length_cons]
      omega
    · simp only [List.length_nil, List.length_cons]
      omega

theorem skipExponent_of_scan {bytes rest : Bytes} {exponent : Option (Bool × List ℕ)}
    (h : Literal.scanExponent bytes = .ok (exponent, rest)) : skipExponent bytes = .ok rest := by
  cases bytes with
  | nil =>
    cases h
    rfl
  | cons b bytes =>
    rw [Literal.scanExponent] at h
    rw [skipExponent]
    split_ifs at h ⊢ with mark
    · simp only at h
      split at h
      · cases h
      · cases h
      · next found left empty alone read =>
        cases h
        rw [read]
        cases found with
        | nil =>
          cases rest with
          | nil => exact absurd rfl (fun same => empty rfl same)
          | cons next more => exact absurd rfl (fun same => alone next more rfl same)
        | cons d ds => rfl
    · cases h
      rfl

/-- A number literal can be passed over. -/
theorem skipNumber_of_scan {negative : Bool} {bytes rest : Bytes} {literal : Literal}
    (h : Literal.scan negative bytes = .ok (literal, rest)) : skipNumber bytes = .ok rest := by
  obtain ⟨⟨whole, bytes'⟩, scanned, h⟩ := Outcome.bind_eq_ok_iff.1 h
  obtain ⟨⟨fraction, bytes''⟩, pointed, h⟩ := Outcome.bind_eq_ok_iff.1 h
  obtain ⟨⟨exponent, left⟩, scaled, h⟩ := Outcome.bind_eq_ok_iff.1 h
  cases h
  have skipped := skipExponent_of_scan scaled
  rw [skipNumber, scanned]
  simp only [bind, Except.bind]
  cases bytes' with
  | nil =>
    cases pointed
    exact skipped
  | cons b more =>
    simp only
    rw [Literal.scanFraction] at pointed
    split_ifs at pointed ⊢ with point
    · split at pointed
      · cases pointed
      · cases pointed
      · next found empty alone =>
        have read : digits more = (fraction, bytes'') := Except.ok.inj pointed
        rw [read]
        cases fraction with
        | nil =>
          cases bytes'' with
          | nil => exact absurd read empty
          | cons next more => exact absurd read (alone next more)
        | cons d ds => exact skipped
    · cases pointed
      exact skipped

/-- A number that can be read can be passed over. -/
theorem skipNumber_of_number {negative : Bool} {bytes rest : Bytes} {n : Number}
    (h : number negative bytes = .ok (n, rest)) : skipNumber bytes = .ok rest := by
  obtain ⟨⟨literal, left⟩, scanned, h⟩ := Outcome.bind_eq_ok_iff.1 h
  simp only at h
  split at h
  · cases h
    exact skipNumber_of_scan scanned
  · cases h

theorem length_lt_of_scanWhole {bytes rest : Bytes} {whole : List ℕ}
    (h : Literal.scanWhole bytes = .ok (whole, rest)) : rest.length < bytes.length := by
  cases bytes with
  | nil => cases h
  | cons b bytes =>
    rw [Literal.scanWhole.eq_def] at h
    simp only at h
    split_ifs at h with zero digit
    · split at h
      · split_ifs at h
        cases h
        exact Nat.lt_succ_self _
      · cases h
        exact Nat.lt_succ_self _
    · have split := length_digits bytes
      rw [digits, if_pos digit] at h
      cases h
      rw [List.length_cons]
      omega

theorem length_le_of_skipExponent {bytes rest : Bytes} (h : skipExponent bytes = .ok rest) :
    rest.length ≤ bytes.length := by
  cases bytes with
  | nil =>
    cases h
    exact Nat.le_refl _
  | cons b bytes =>
    rw [skipExponent] at h
    split_ifs at h
    · have split := length_digits (Literal.scanSign bytes).2
      have sign : (Literal.scanSign bytes).2.length ≤ bytes.length := by
        cases bytes with
        | nil => exact Nat.le_refl _
        | cons b bytes =>
          rw [Literal.scanSign]
          split_ifs <;> simp
      split at h
      · cases h
      · next found _ read =>
        cases h
        rw [read] at split
        simp only at split
        rw [List.length_cons]
        omega
    · cases h
      exact Nat.le_refl _

theorem length_lt_of_skipNumber {bytes rest : Bytes} (h : skipNumber bytes = .ok rest) :
    rest.length < bytes.length := by
  unfold skipNumber at h
  cases scanned : Literal.scanWhole bytes with
  | error fault =>
    rw [scanned] at h
    cases h
  | ok read =>
    obtain ⟨whole, left⟩ := read
    have shorter := length_lt_of_scanWhole scanned
    rw [scanned] at h
    cases left with
    | nil =>
      cases h
      exact shorter
    | cons b more =>
      simp only [bind, Except.bind] at h
      split_ifs at h
      · have split := length_digits more
        split at h
        · cases h
        · next found _ read =>
          have := length_le_of_skipExponent h
          rw [read] at split
          simp only [List.length_cons] at split shorter
          omega
      · exact Nat.lt_of_le_of_lt (length_le_of_skipExponent h) shorter

end HomeBus.Json
