import HomeBus.Proofs.Json.Skipping

/-!
# The form of strings and numbers

`Content` is what may stand between two quotation marks and `Magnitude` how a number is written
after its sign. They are what is skipped, no more and no less. A string that is read must also
denote something: `Denotes` relates its content to the bytes that it stands for.

Results:
* `skipString_eq_ok_iff`: a string is skipped when it has a content.
* `stringBody_eq_ok_iff`, `string_of_denotes`: a string is read when its content denotes something.
* `skipNumber_append`, `exists_magnitude`: a number is skipped as a whole, whatever its size.
* `exists_number_append`: what is read of a number does not depend on what follows it.
-/

namespace HomeBus.Json

variable {bytes rest : Bytes}

/-! ## Blanks -/

/-- A text of blanks. -/
def Blank (bytes : Bytes) : Prop := ∀ b ∈ bytes, isBlank b = true

theorem blank_nil : Blank [] := List.forall_mem_nil _

theorem Blank.append {lead trail : Bytes} (blank : Blank lead) (blank' : Blank trail) :
    Blank (lead ++ trail) := List.forall_mem_append.2 ⟨blank, blank'⟩

theorem skipBlank_append {lead : Bytes} (blank : Blank lead) (rest : Bytes) :
    skipBlank (lead ++ rest) = skipBlank rest := by
  induction lead with
  | nil => rfl
  | cons b lead ih =>
    obtain ⟨here, others⟩ := List.forall_mem_cons.1 blank
    rw [List.cons_append, skipBlank, if_pos here, ih others]

/-- What is left when blanks are skipped stands behind blanks. -/
theorem exists_blank (bytes : Bytes) : ∃ lead, Blank lead ∧ bytes = lead ++ skipBlank bytes := by
  induction bytes with
  | nil => exact ⟨[], blank_nil, rfl⟩
  | cons b bytes ih =>
    rw [skipBlank]
    split_ifs with here
    · obtain ⟨lead, blank, split⟩ := ih
      exact ⟨b :: lead, List.forall_mem_cons.2 ⟨here, blank⟩, congrArg (b :: ·) split⟩
    · exact ⟨[], blank_nil, rfl⟩

theorem exists_blank_of_skipBlank {tail : Bytes} (front : skipBlank bytes = tail) :
    ∃ lead, Blank lead ∧ bytes = lead ++ tail := front ▸ exists_blank bytes

/-! ## Strings -/

/-- The letters of the escapes that have one letter. -/
def escapeLetters : Bytes := [0x22, 0x5C, 0x2F, 0x62, 0x66, 0x6E, 0x72, 0x74]

/-- A hexadecimal digit of either case. -/
def IsHex (b : UInt8) : Prop :=
  0x30 ≤ b ∧ b ≤ 0x39 ∨ 0x41 ≤ b ∧ b ≤ 0x46 ∨ 0x61 ≤ b ∧ b ≤ 0x66

/-- What may stand between two quotation marks. -/
inductive Content : Bytes → Prop where
  | nil : Content []
  | plain {b c} (quote : b ≠ 0x22) (backslash : b ≠ 0x5C) (control : ¬b < 0x20)
      (more : Content c) : Content (b :: c)
  | letter {letter c} (known : letter ∈ escapeLetters) (more : Content c) :
      Content (0x5C :: letter :: c)
  | unit {a₁ a₂ a₃ a₄ c} (digits : IsHex a₁ ∧ IsHex a₂ ∧ IsHex a₃ ∧ IsHex a₄) (more : Content c) :
      Content (0x5C :: 0x75 :: a₁ :: a₂ :: a₃ :: a₄ :: c)

/-- What stands between two quotation marks denotes some bytes. -/
inductive Denotes : Bytes → Bytes → Prop where
  | nil : Denotes [] []
  | plain {b c s} (quote : b ≠ 0x22) (backslash : b ≠ 0x5C) (control : ¬b < 0x20)
      (more : Denotes c s) : Denotes (b :: c) (b :: s)
  | letter {letter byte c s} (known : letterEscape? letter = some byte) (more : Denotes c s) :
      Denotes (0x5C :: letter :: c) (byte :: s)
  | unit {a₁ a₂ a₃ a₄ unit c s} (digits : hexUnit? a₁ a₂ a₃ a₄ = some unit)
      (low : isLowSurrogate unit = false) (high : isHighSurrogate unit = false)
      (more : Denotes c s) :
      Denotes (0x5C :: 0x75 :: a₁ :: a₂ :: a₃ :: a₄ :: c) (Utf8.encodeNat unit ++ s)
  | pair {a₁ a₂ a₃ a₄ b₁ b₂ b₃ b₄ high low c s} (digits : hexUnit? a₁ a₂ a₃ a₄ = some high)
      (first : isHighSurrogate high = true) (digits' : hexUnit? b₁ b₂ b₃ b₄ = some low)
      (second : isLowSurrogate low = true) (more : Denotes c s) :
      Denotes (0x5C :: 0x75 :: a₁ :: a₂ :: a₃ :: a₄ :: 0x5C :: 0x75 :: b₁ :: b₂ :: b₃ :: b₄ :: c)
        (Utf8.encodeNat (surrogatePair high low) ++ s)

theorem isSome_letterEscape?_iff {letter : UInt8} :
    (letterEscape? letter).isSome = true ↔ letter ∈ escapeLetters := by
  simp only [letterEscape?, escapeLetters, List.mem_cons, List.not_mem_nil, or_false,
    Bool.or_eq_true, decide_eq_true_eq]
  split_ifs with named
  · rw [or_assoc] at named
    rcases named with rfl | rfl | rfl <;> simp
  all_goals simp_all

theorem isSome_hexValue?_iff {b : UInt8} : (hexValue? b).isSome = true ↔ IsHex b := by
  unfold hexValue? IsHex
  simp only [UInt8.le_iff_toNat_le]
  split_ifs <;> simp_all

theorem isSome_hexUnit?_iff {a₁ a₂ a₃ a₄ : UInt8} :
    (hexUnit? a₁ a₂ a₃ a₄).isSome = true ↔ IsHex a₁ ∧ IsHex a₂ ∧ IsHex a₃ ∧ IsHex a₄ := by
  simp only [hexUnit?, ← isSome_hexValue?_iff, Option.isSome_iff_exists]
  simp [Option.bind_eq_some_iff]

theorem skipString_append {c : Bytes} (content : Content c) (rest : Bytes) :
    skipString (c ++ 0x22 :: rest) = .ok rest := by
  induction content with
  | nil =>
    rw [List.nil_append, skipString.eq_def]
    rfl
  | plain quote backslash control more ih =>
    rw [List.cons_append, skipString_plain quote backslash control, ih]
  | letter known more ih =>
    rw [List.cons_append, List.cons_append, skipString_letter (isSome_letterEscape?_iff.2 known), ih]
  | unit digits more ih =>
    simp only [List.cons_append]
    rw [skipString_unit (isSome_hexUnit?_iff.2 digits), ih]

/-- A string is skipped when it has a content, up to its closing quotation mark. -/
theorem skipString_eq_ok_iff :
    skipString bytes = .ok rest ↔ ∃ c, Content c ∧ bytes = c ++ 0x22 :: rest := by
  constructor
  · intro h
    fun_induction skipString bytes with
    | case2 =>
      cases h
      exact ⟨[], .nil, rfl⟩
    | case4 _ _ known _ ih =>
      obtain ⟨c, content, rfl⟩ := ih h
      exact ⟨_, .letter (isSome_letterEscape?_iff.1 known) content, rfl⟩
    | case5 _ _ _ _ _ digits _ _ ih =>
      obtain ⟨c, content, rfl⟩ := ih h
      exact ⟨_, .unit (isSome_hexUnit?_iff.1 digits) content, rfl⟩
    | case10 _ _ quote backslash control ih =>
      obtain ⟨c, content, rfl⟩ := ih h
      exact ⟨_, .plain quote backslash control content, rfl⟩
    | _ => cases h
  · rintro ⟨c, content, rfl⟩
    exact skipString_append content rest

theorem content_iff {c : Bytes} : Content c ↔ (skipString (c ++ [0x22])).toOption = some [] := by
  rw [Outcome.toOption_eq_some_iff, skipString_eq_ok_iff]
  constructor
  · exact fun content => ⟨c, content, rfl⟩
  · rintro ⟨c', content, split⟩
    exact List.append_cancel_right split ▸ content

instance : DecidablePred Content := fun _ => decidable_of_iff _ content_iff.symm

theorem prepend_eq_ok_iff {front content : Bytes} {read : Except Malformed (Bytes × Bytes)} :
    prepend front read = .ok (content, rest) ↔
      ∃ back, read = .ok (back, rest) ∧ content = front ++ back := by
  cases read with
  | ok read => simp [prepend, and_comm, eq_comm, Prod.ext_iff]
  | error fault => exact iff_of_false (by rintro ⟨⟩) (by rintro ⟨_, ⟨⟩, -⟩)

/-- A surrogate pair stands for one character. -/
theorem stringBody_pair {a₁ a₂ a₃ a₄ b₁ b₂ b₃ b₄ : UInt8} {high low : ℕ}
    (digits : hexUnit? a₁ a₂ a₃ a₄ = some high) (first : isHighSurrogate high = true)
    (digits' : hexUnit? b₁ b₂ b₃ b₄ = some low) (second : isLowSurrogate low = true)
    (rest : Bytes) :
    stringBody (0x5C :: 0x75 :: a₁ :: a₂ :: a₃ :: a₄ ::
        0x5C :: 0x75 :: b₁ :: b₂ :: b₃ :: b₄ :: rest) =
      prepend (Utf8.encodeNat (surrogatePair high low)) (stringBody rest) := by
  have other : isLowSurrogate high = false := by
    simp only [isHighSurrogate, Bool.and_eq_true, decide_eq_true_eq] at first
    simp only [isLowSurrogate, Bool.and_eq_false_iff, decide_eq_false_iff_not]
    omega
  rw [stringBody.eq_def]
  simp only [show letterEscape? 0x75 = none by decide, digits, other, first, digits', second]
  rw [if_neg (by decide)]
  simp only [↓reduceIte, Bool.false_eq_true]

/-- A string is read when its content denotes something, up to its closing quotation mark. -/
theorem stringBody_eq_ok_iff {s : Bytes} :
    stringBody bytes = .ok (s, rest) ↔ ∃ c, Denotes c s ∧ bytes = c ++ 0x22 :: rest := by
  constructor
  · intro h
    fun_induction stringBody bytes generalizing s with
    | case2 =>
      cases h
      exact ⟨[], .nil, rfl⟩
    | case4 _ _ _ known _ ih =>
      obtain ⟨back, read, rfl⟩ := prepend_eq_ok_iff.1 h
      obtain ⟨c, denotes, rfl⟩ := ih read
      exact ⟨_, .letter known denotes, rfl⟩
    | case10 _ _ _ _ _ digits _ first _ _ _ _ _ _ digits' second _ _ ih =>
      obtain ⟨back, read, front⟩ := prepend_eq_ok_iff.1 h
      obtain ⟨c, denotes, rfl⟩ := ih read
      rw [front]
      exact ⟨_, .pair digits first digits' second denotes, rfl⟩
    | case15 _ _ _ _ _ _ digits low high _ _ ih =>
      obtain ⟨back, read, rfl⟩ := prepend_eq_ok_iff.1 h
      obtain ⟨c, denotes, rfl⟩ := ih read
      rw [Bool.not_eq_true] at low high
      exact ⟨_, .unit digits low high denotes, rfl⟩
    | case19 _ _ quote backslash control ih =>
      obtain ⟨back, read, rfl⟩ := prepend_eq_ok_iff.1 h
      obtain ⟨c, denotes, rfl⟩ := ih read
      exact ⟨_, .plain quote backslash control denotes, rfl⟩
    | _ => cases h
  · rintro ⟨c, denotes, rfl⟩
    induction denotes with
    | nil =>
      rw [List.nil_append, stringBody.eq_def]
      rfl
    | plain quote backslash control more ih =>
      rw [List.cons_append, stringBody_plain quote backslash control, ih]
      rfl
    | letter known more ih =>
      rw [List.cons_append, List.cons_append, stringBody_letter known, ih]
      rfl
    | unit digits low high more ih =>
      simp only [List.cons_append]
      rw [stringBody_unit digits low high, ih]
      rfl
    | pair digits first digits' second more ih =>
      simp only [List.cons_append]
      rw [stringBody_pair digits first digits' second, ih]
      rfl

theorem denotes_iff {c s : Bytes} :
    Denotes c s ↔ (stringBody (c ++ [0x22])).toOption = some (s, []) := by
  rw [Outcome.toOption_eq_some_iff, stringBody_eq_ok_iff]
  constructor
  · exact fun denotes => ⟨c, denotes, rfl⟩
  · rintro ⟨c', denotes, split⟩
    exact List.append_cancel_right split ▸ denotes

instance (c s : Bytes) : Decidable (Denotes c s) := decidable_of_iff _ denotes_iff.symm

/-- A string whose content denotes the bytes of a text is read as that text. -/
theorem string_of_denotes {c : Bytes} {s : String} (denotes : Denotes c (Utf8.ofText s))
    (rest : Bytes) : string (c ++ 0x22 :: rest) = .ok (s, rest) := by
  rw [string, stringBody_eq_ok_iff.2 ⟨c, denotes, rfl⟩]
  simp only [Utf8.text?_ofText]

/-- A string that is read has a content that is read as the same text wherever it stands. -/
theorem exists_content_of_string {s : String} (read : string bytes = .ok (s, rest)) :
    ∃ c, Content c ∧ bytes = c ++ 0x22 :: rest ∧
      ∀ rest', string (c ++ 0x22 :: rest') = .ok (s, rest') := by
  obtain ⟨c, content, split⟩ := skipString_eq_ok_iff.1 (skipString_of_string read)
  refine ⟨c, content, split, fun rest' => ?_⟩
  unfold string at read ⊢
  cases resolved : stringBody bytes with
  | error fault =>
    rw [resolved] at read
    cases read
  | ok found =>
    obtain ⟨s', left⟩ := found
    rw [resolved] at read
    simp only at read
    cases text : Utf8.text? s' with
    | none =>
      rw [text] at read
      cases read
    | some _ =>
      rw [text] at read
      cases read
      obtain ⟨c', denotes, split'⟩ := stringBody_eq_ok_iff.1 resolved
      obtain rfl := List.append_cancel_right (split.symm.trans split')
      rw [stringBody_eq_ok_iff.2 ⟨c, denotes, rfl⟩]
      simp only [text]

/-! ## Numbers -/

/-- Digits only. -/
def AllDigits (ds : Bytes) : Prop := ∀ b ∈ ds, isDigit b = true

/-- The digits before the point: a zero alone, or digits that start with another one. -/
inductive Whole : Bytes → Prop where
  | zero : Whole [0x30]
  | digits {b ds} (digit : isDigit b = true) (nonzero : b ≠ 0x30) (more : AllDigits ds) :
      Whole (b :: ds)

/-- Nothing, or a point and at least one digit. -/
inductive Fraction : Bytes → Prop where
  | none : Fraction []
  | digits {b ds} (digit : isDigit b = true) (more : AllDigits ds) : Fraction (0x2E :: b :: ds)

/-- Nothing, or a mark, a sign if wanted, and at least one digit. -/
inductive Exponent : Bytes → Prop where
  | none : Exponent []
  | digits {mark sign b ds} (exponent : isExponentMark mark = true)
      (signed : sign ∈ [[], [0x2B], [0x2D]]) (digit : isDigit b = true) (more : AllDigits ds) :
      Exponent (mark :: (sign ++ b :: ds))

/-- A number after its sign. -/
inductive Magnitude : Bytes → Prop where
  | mk {whole fraction exponent} (before : Whole whole) (behind : Fraction fraction)
      (power : Exponent exponent) : Magnitude (whole ++ (fraction ++ exponent))

/-- No digit follows. -/
def Stops (rest : Bytes) : Prop := ∀ b ∈ rest.head?, isDigit b = false

theorem Ends.stops (ends : Ends rest) : Stops rest := fun b front => (ends b front).1

/-- The digits of a text as numbers. -/
def figures (ds : Bytes) : List ℕ := ds.map fun b => b.toNat - 0x30

theorem digits_append_of_stops {ds : Bytes} (all : AllDigits ds) (stops : Stops rest) :
    digits (ds ++ rest) = (figures ds, rest) := by
  induction ds with
  | nil =>
    cases rest with
    | nil => rfl
    | cons b rest => rw [List.nil_append, digits, stops b rfl, if_neg Bool.false_ne_true]; rfl
  | cons b ds ih =>
    obtain ⟨here, others⟩ := List.forall_mem_cons.1 all
    rw [List.cons_append, digits, if_pos here, ih others]
    rfl

/-- What `digits` takes are the digits at the front. -/
theorem exists_digits (bytes : Bytes) :
    ∃ ds, AllDigits ds ∧ bytes = ds ++ (digits bytes).2 ∧
      (digits bytes).1 = ds.map fun b => b.toNat - 0x30 := by
  induction bytes with
  | nil => exact ⟨[], List.forall_mem_nil _, rfl, rfl⟩
  | cons b bytes ih =>
    rw [digits]
    split_ifs with here
    · obtain ⟨ds, all, split, values⟩ := ih
      refine ⟨b :: ds, List.forall_mem_cons.2 ⟨here, all⟩, congrArg (b :: ·) split, ?_⟩
      rw [List.map_cons, ← values]
    · exact ⟨[], List.forall_mem_nil _, rfl, rfl⟩

theorem ends_of_isExponentMark {mark : UInt8} (h : isExponentMark mark = true) :
    isDigit mark = false ∧ mark ≠ 0x2E := by
  simp only [isExponentMark, Bool.or_eq_true, decide_eq_true_eq] at h
  rcases h with rfl | rfl <;> decide

theorem scanWhole_append {w : Bytes} (whole : Whole w) (stops : Stops rest) :
    Literal.scanWhole (w ++ rest) = .ok (figures w, rest) := by
  cases whole with
  | zero =>
    rw [List.singleton_append, Literal.scanWhole.eq_def]
    simp only [↓reduceIte]
    cases rest with
    | nil => rfl
    | cons b rest =>
      simp only [stops b rfl, Bool.false_eq_true, ↓reduceIte]
      rfl
  | @digits b ds digit nonzero more =>
    rw [List.cons_append, Literal.scanWhole.eq_def]
    simp only
    rw [if_neg nonzero, if_pos digit, ← List.cons_append,
      digits_append_of_stops (List.forall_mem_cons.2 ⟨digit, more⟩) stops]

theorem scanFraction_append {f : Bytes} (fraction : Fraction f) (stops : Stops rest)
    (pointless : ∀ b ∈ rest.head?, b ≠ 0x2E) :
    Literal.scanFraction (f ++ rest) = .ok (figures (f.drop 1), rest) := by
  cases fraction with
  | none =>
    cases rest with
    | nil => rfl
    | cons b rest =>
      rw [List.nil_append, Literal.scanFraction, if_neg (pointless b rfl)]
      rfl
  | @digits b ds digit more =>
    rw [List.cons_append, Literal.scanFraction, if_pos rfl,
      digits_append_of_stops (List.forall_mem_cons.2 ⟨digit, more⟩) stops]
    rfl

theorem scanSign_append {sign : Bytes} (signed : sign ∈ [[], [0x2B], [0x2D]]) :
    ∃ negative, ∀ b rest, isDigit b = true →
      Literal.scanSign (sign ++ b :: rest) = (negative, b :: rest) := by
  simp only [List.mem_cons, List.not_mem_nil, or_false] at signed
  rcases signed with rfl | rfl | rfl
  · refine ⟨false, fun b rest digit => ?_⟩
    rw [List.nil_append, Literal.scanSign, if_neg (Reader.ne_of_isDigit digit (by decide)),
      if_neg (Reader.ne_of_isDigit digit (by decide))]
  · exact ⟨false, fun _ _ _ => rfl⟩
  · exact ⟨true, fun _ _ _ => rfl⟩

theorem scanExponent_append {e : Bytes} (exponent : Exponent e) :
    ∃ power, ∀ rest, Ends rest → Literal.scanExponent (e ++ rest) = .ok (power, rest) := by
  cases exponent with
  | none =>
    refine ⟨.none, fun rest ends => ?_⟩
    cases rest with
    | nil => rfl
    | cons b rest =>
      rw [List.nil_append, Literal.scanExponent, (ends b rfl).2.2, if_neg Bool.false_ne_true]
  | @digits mark sign b ds exponent signed digit more =>
    obtain ⟨negative, scanned⟩ := scanSign_append signed
    refine ⟨some (negative, (b :: ds).map fun b => b.toNat - 0x30), fun rest ends => ?_⟩
    have all := digits_append_of_stops (List.forall_mem_cons.2 ⟨digit, more⟩) (ends.stops)
    rw [List.cons_append, List.append_assoc, List.cons_append, Literal.scanExponent,
      if_pos exponent, scanned b _ digit]
    rw [List.cons_append] at all
    simp only [all]
    rfl

/-- A number literal is taken apart into its digits. -/
theorem scan_parts {w f e : Bytes} {power : Option (Bool × List ℕ)} (before : Whole w)
    (behind : Fraction f) (exponent : Exponent e)
    (scanned : Literal.scanExponent (e ++ rest) = .ok (power, rest)) (negative : Bool)
    (ends : Ends rest) :
    Literal.scan negative (w ++ (f ++ e) ++ rest) =
      .ok (⟨negative, figures w, figures (f.drop 1), power⟩, rest) := by
  -- What follows the digits before the point is no digit, and what follows the others no point.
  have scaled : Stops (e ++ rest) ∧ ∀ b ∈ (e ++ rest).head?, b ≠ 0x2E := by
    cases exponent with
    | none => exact ⟨ends.stops, fun b front => (ends b front).2.1⟩
    | digits mark =>
      have other := ends_of_isExponentMark mark
      exact ⟨by rintro _ ⟨⟩; exact other.1, by rintro _ ⟨⟩; exact other.2⟩
  have pointed : Stops (f ++ (e ++ rest)) := by
    cases behind with
    | none => exact scaled.1
    | digits =>
      rintro _ ⟨⟩
      decide
  rw [List.append_assoc, List.append_assoc, Literal.scan, scanWhole_append before pointed,
    Outcome.ok_bind]
  simp only
  rw [scanFraction_append behind scaled.1 scaled.2, Outcome.ok_bind]
  simp only
  rw [scanned]
  rfl

/-- A number literal is taken apart in the same way whatever follows. -/
theorem scan_append {m : Bytes} (magnitude : Magnitude m) (negative : Bool) :
    ∃ literal, ∀ rest, Ends rest → Literal.scan negative (m ++ rest) = .ok (literal, rest) := by
  obtain @⟨w, f, e, before, behind, power⟩ := magnitude
  obtain ⟨exponent, exponents⟩ := scanExponent_append power
  exact ⟨⟨negative, figures w, figures (f.drop 1), exponent⟩, fun rest ends =>
    scan_parts before behind power (exponents rest ends) negative ends⟩

/-- What is read of a number does not depend on what follows it. -/
theorem exists_number_append {m : Bytes} (magnitude : Magnitude m) (negative : Bool) :
    ∃ found : Except Malformed Number, ∀ rest, Ends rest →
      number negative (m ++ rest) = found.map (·, rest) := by
  obtain ⟨literal, scanned⟩ := scan_append magnitude negative
  refine ⟨literal.number?.elim (.error .numberTooLarge) .ok, fun rest ends => ?_⟩
  rw [number, scanned rest ends, Outcome.ok_bind]
  simp only
  cases literal.number? <;> rfl

/-- A number is skipped as a whole. -/
theorem skipNumber_append {m : Bytes} (magnitude : Magnitude m) (ends : Ends rest) :
    skipNumber (m ++ rest) = .ok rest := by
  obtain ⟨literal, scanned⟩ := scan_append magnitude false
  exact skipNumber_of_scan (scanned rest ends)

/-! ## What is skipped of a number -/

theorem whole_of_scanWhole {ns : List ℕ} (h : Literal.scanWhole bytes = .ok (ns, rest)) :
    ∃ w, Whole w ∧ bytes = w ++ rest := by
  cases bytes with
  | nil => cases h
  | cons b bytes =>
    rw [Literal.scanWhole.eq_def] at h
    simp only at h
    split_ifs at h with zero digit
    · subst zero
      split at h
      · split_ifs at h
        cases h
        exact ⟨_, .zero, rfl⟩
      · cases h
        exact ⟨_, .zero, rfl⟩
    · obtain ⟨ds, all, split, -⟩ := exists_digits bytes
      rw [digits, if_pos digit] at h
      cases h
      exact ⟨_, .digits digit zero all, congrArg (b :: ·) split⟩

/-- Digits that are taken start with one, unless there are none. -/
theorem exists_digit {ns : List ℕ} (taken : digits bytes = (ns, rest)) (some_ : ns ≠ []) :
    ∃ b ds, isDigit b = true ∧ AllDigits ds ∧ bytes = b :: ds ++ rest := by
  obtain ⟨ds, all, split, values⟩ := exists_digits bytes
  rw [taken] at split values
  cases ds with
  | nil => exact absurd values some_
  | cons b ds =>
    obtain ⟨digit, more⟩ := List.forall_mem_cons.1 all
    exact ⟨b, ds, digit, more, split⟩

theorem exponent_of_skipExponent (h : skipExponent bytes = .ok rest) :
    ∃ e, Exponent e ∧ bytes = e ++ rest := by
  cases bytes with
  | nil =>
    cases h
    exact ⟨[], .none, rfl⟩
  | cons mark bytes =>
    rw [skipExponent] at h
    split_ifs at h with exponent
    · obtain ⟨sign, signed, split⟩ : ∃ sign, sign ∈ [[], [0x2B], [0x2D]] ∧
          bytes = sign ++ (Literal.scanSign bytes).2 := by
        cases bytes with
        | nil => exact ⟨[], by simp, rfl⟩
        | cons b bytes =>
          rw [Literal.scanSign]
          split_ifs with plus minus
          · exact ⟨[0x2B], by simp, congrArg (· :: bytes) plus⟩
          · exact ⟨[0x2D], by simp, congrArg (· :: bytes) minus⟩
          · exact ⟨[], by simp, rfl⟩
      split at h
      · cases h
      · next ns _ some_ taken =>
        cases h
        obtain ⟨b, ds, digit, more, digits⟩ := exists_digit taken some_
        refine ⟨_, .digits exponent signed digit more, ?_⟩
        rw [split, digits]
        simp only [List.cons_append, List.append_assoc]
    · cases h
      exact ⟨[], .none, rfl⟩

/-- What is skipped of a number is a number. -/
theorem exists_magnitude (h : skipNumber bytes = .ok rest) :
    ∃ m, Magnitude m ∧ bytes = m ++ rest := by
  unfold skipNumber at h
  cases scanned : Literal.scanWhole bytes with
  | error fault =>
    rw [scanned] at h
    cases h
  | ok found =>
    obtain ⟨ns, left⟩ := found
    obtain ⟨w, whole, rfl⟩ := whole_of_scanWhole scanned
    rw [scanned] at h
    cases left with
    | nil =>
      cases h
      exact ⟨_, .mk whole .none .none, by simp⟩
    | cons b more =>
      simp only [bind, Except.bind] at h
      split_ifs at h with point
      · subst point
        split at h
        · cases h
        · next ns left some_ taken =>
          obtain ⟨b, ds, digit, others, digits⟩ := exists_digit taken some_
          obtain ⟨e, exponent, rfl⟩ := exponent_of_skipExponent h
          refine ⟨_, .mk whole (.digits digit others) exponent, ?_⟩
          rw [digits]
          simp only [List.cons_append, List.append_assoc]
      · obtain ⟨e, exponent, split⟩ := exponent_of_skipExponent h
        exact ⟨_, .mk whole .none exponent, by rw [split]; simp⟩

end HomeBus.Json
