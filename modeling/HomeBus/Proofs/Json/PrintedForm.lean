import HomeBus.Proofs.Json.ObjectText
import HomeBus.Proofs.Number.Shortest

/-!
# Documents that were written have the form of JSON

Every document that is written can be passed over, doubles included: the digits of a double that is
not zero start with one that is not zero, with the point and the power of ten in their places.

Results:
* `magnitude_positional`, `magnitude_scientific`: how a decimal number is written.
* `form_bytes`: every document has the form of JSON when it is written.
* `memberTexts_printed`: the members of an object that is written stand there one by one.
-/

namespace HomeBus.Json

/-! ## Digits -/

/-- A text of decimal digits. -/
def Figures (cs : List Char) : Prop := ∀ c ∈ cs, c.isDigit = true

variable {c : Char} {cs ds : List Char}

theorem figures_append : Figures (cs ++ ds) ↔ Figures cs ∧ Figures ds := List.forall_mem_append

theorem figures_replicate (n : ℕ) : Figures (List.replicate n '0') := by
  intro c mem
  obtain rfl := List.eq_of_mem_replicate mem
  rfl

theorem figures_natText (n : ℕ) : Figures (natText n) := fun _ mem =>
  Nat.isDigit_of_mem_toDigits (by decide) (by decide) mem

theorem natText_ne_nil (n : ℕ) : natText n ≠ [] := Nat.toDigits_ne_nil

/-- The byte of a digit, which is a zero if the digit is one. -/
theorem exists_encodeChar (digit : c.isDigit = true) :
    ∃ b, Utf8.encodeChar c = [b] ∧ isDigit b = true ∧ (b = 0x30 → c = '0') := by
  have range : 0x30 ≤ c.toNat ∧ c.toNat ≤ 0x39 := by
    simpa [Char.isDigit, UInt32.le_iff_toNat_le] using digit
  refine ⟨_, encodeChar_of_isDigit digit, isDigit_digitByte (by omega), fun zero => ?_⟩
  have value := toNat_digitByte (d := c.toNat - 0x30) (by omega)
  rw [zero] at value
  exact Char.toNat_inj.1 (by change c.toNat = 0x30; simp at value; omega)

theorem allDigits_encode (figures : Figures cs) : AllDigits (Utf8.encode cs) := by
  induction cs with
  | nil => exact List.forall_mem_nil _
  | cons c cs ih =>
    obtain ⟨digit, figures⟩ := List.forall_mem_cons.1 figures
    obtain ⟨b, encoded, here, -⟩ := exists_encodeChar digit
    rw [Utf8.encode_cons, encoded]
    exact List.forall_mem_cons.2 ⟨here, ih figures⟩

/-- The bytes of digits, the first of which is a zero if the first digit is one. -/
theorem exists_encode_cons (figures : Figures (c :: cs)) :
    ∃ b, Utf8.encode (c :: cs) = b :: Utf8.encode cs ∧ isDigit b = true ∧
      AllDigits (Utf8.encode cs) ∧ (b = 0x30 → c = '0') := by
  obtain ⟨digit, figures⟩ := List.forall_mem_cons.1 figures
  obtain ⟨b, encoded, here, zero⟩ := exists_encodeChar digit
  exact ⟨b, by rw [Utf8.encode_cons, encoded]; rfl, here, allDigits_encode figures, zero⟩

/-! ## Decimal numbers -/

theorem whole_encode (figures : Figures (c :: cs)) (nonzero : c ≠ '0') :
    Whole (Utf8.encode (c :: cs)) := by
  obtain ⟨b, encoded, digit, more, zero⟩ := exists_encode_cons figures
  rw [encoded]
  exact .digits digit (fun same => nonzero (zero same)) more

theorem fraction_encode (figures : Figures cs) (some_ : cs ≠ []) :
    Fraction (Utf8.encode ('.' :: cs)) := by
  obtain ⟨c, cs, rfl⟩ := List.exists_cons_of_ne_nil some_
  obtain ⟨b, encoded, digit, more, -⟩ := exists_encode_cons figures
  rw [Utf8.encode_cons, encoded]
  exact .digits digit more

theorem exponent_encode (figures : Figures cs) (some_ : cs ≠ []) {sign : Char}
    (signed : sign = '+' ∨ sign = '-') : Exponent (Utf8.encode ('e' :: sign :: cs)) := by
  obtain ⟨c, cs, rfl⟩ := List.exists_cons_of_ne_nil some_
  obtain ⟨b, encoded, digit, more, -⟩ := exists_encode_cons figures
  rw [Utf8.encode_cons, Utf8.encode_cons, encoded]
  rcases signed with rfl | rfl
  · exact @Exponent.digits 0x65 [0x2B] b _ (by decide) (by decide) digit more
  · exact @Exponent.digits 0x65 [0x2D] b _ (by decide) (by decide) digit more

variable {d : Decimal}

/-- The digits of a number that is not zero do not start with a zero. -/
theorem exists_digitChars (pos : 0 < d.digits) :
    ∃ c cs, d.digitChars = c :: cs ∧ Figures (c :: cs) ∧ c ≠ '0' := by
  obtain ⟨c, cs, front⟩ := List.exists_cons_of_ne_nil (natText_ne_nil d.digits)
  refine ⟨c, cs, front, front ▸ figures_natText d.digits, ?_⟩
  rintro rfl
  obtain ⟨n, ns, first, nonzero, -⟩ := decimals_eq_cons pos
  rw [decimals, front] at first
  cases first
  cases nonzero

/-- A decimal number in its parts. -/
theorem magnitude_encode {whole fraction exponent : List Char}
    (before : Whole (Utf8.encode whole)) (behind : Fraction (Utf8.encode fraction))
    (power : Exponent (Utf8.encode exponent)) :
    Magnitude (Utf8.encode (whole ++ fraction ++ exponent)) := by
  rw [List.append_assoc, Utf8.encode_append, Utf8.encode_append]
  exact .mk before behind power

/-- A number with all its places written out. -/
theorem magnitude_positional (pos : 0 < d.digits) : Magnitude (Utf8.encode d.positional) := by
  obtain ⟨c, cs, digits, figures, nonzero⟩ := exists_digitChars pos
  have without {whole fraction : List Char} (before : Whole (Utf8.encode whole))
      (behind : Fraction (Utf8.encode fraction)) : Magnitude (Utf8.encode (whole ++ fraction)) := by
    simpa using @magnitude_encode whole fraction [] before behind .none
  unfold Decimal.positional
  rw [digits]
  dsimp only
  split_ifs with round inside
  · refine without ?_ (fraction_encode (figures_replicate 1) (List.cons_ne_nil _ _))
    exact whole_encode (figures_append.2 ⟨figures, figures_replicate _⟩) nonzero
  · obtain ⟨places, split⟩ : ∃ places, (c :: cs).length - (-d.exponent).toNat = places + 1 :=
      Nat.exists_eq_succ_of_ne_zero (Nat.sub_ne_zero_of_lt inside)
    rw [split, List.take_succ_cons, List.drop_succ_cons]
    have parts := figures
    rw [← List.take_append_drop (places + 1) (c :: cs), figures_append] at parts
    refine without (whole_encode parts.1 nonzero) (fraction_encode parts.2 ?_)
    rw [Ne, List.drop_eq_nil_iff]
    simp only [List.length_cons] at split
    omega
  · refine @without ['0'] _ .zero (fraction_encode ?_ ?_)
    · exact figures_append.2 ⟨figures_replicate _, figures⟩
    · simp

/-- A number with one digit before the point. -/
theorem magnitude_scientific (pos : 0 < d.digits) : Magnitude (Utf8.encode d.scientific) := by
  obtain ⟨c, cs, digits, figures, nonzero⟩ := exists_digitChars pos
  have power : Exponent (Utf8.encode ('e' :: (if d.leading < 0 then '-' else '+') ::
      natText d.leading.natAbs)) := by
    refine exponent_encode (figures_natText _) (natText_ne_nil _) ?_
    split
    · exact .inr rfl
    · exact .inl rfl
  obtain ⟨digit, tail⟩ := List.forall_mem_cons.1 figures
  have whole : Whole (Utf8.encode [c]) :=
    whole_encode (List.forall_mem_singleton.2 digit) nonzero
  unfold Decimal.scientific
  rw [digits]
  cases cs with
  | nil => exact @magnitude_encode [c] [] _ whole .none power
  | cons next more =>
    exact @magnitude_encode [c] ('.' :: next :: more) _ whole
      (fraction_encode tail (List.cons_ne_nil _ _)) power

/-- The text of a double behind its sign. -/
def magnitudeText (d : Decimal) : List Char :=
  if -5 ≤ d.leading ∧ d.leading < 16 then d.positional else d.scientific

theorem magnitude_magnitudeText {value : Binary64} (finite : value.isFinite = true) :
    Magnitude (Utf8.encode (magnitudeText value.shortest)) := by
  cases zero : value.isZero with
  | true =>
    rw [Binary64.shortest, zero, if_pos rfl]
    exact @Magnitude.mk [0x30] [0x2E, 0x30] [] .zero
      (.digits (by decide) (List.forall_mem_nil _)) .none
  | false =>
    have pos := Binary64.shortest_digits_pos finite zero
    unfold magnitudeText
    split
    · exact magnitude_positional pos
    · exact magnitude_scientific pos

/-- A double is a minus sign and the text of its magnitude, or this text alone. -/
theorem bytes_double (value : Binary64) (finite : value.isFinite = true) :
    bytes (.num (.double value finite)) =
      if value.isNegative then 0x2D :: Utf8.encode (magnitudeText value.shortest)
      else Utf8.encode (magnitudeText value.shortest) := by
  rw [bytes, render, Number.text, doubleText]
  split <;> rfl

/-- A finite double has the form of a number. -/
theorem form_double (value : Binary64) (finite : value.isFinite = true) :
    Form .value (bytes (.num (.double value finite))) := by
  have magnitude := magnitude_magnitudeText finite
  rw [bytes_double]
  split
  · exact .negative magnitude
  · exact .number magnitude

/-! ## Documents -/

/-- What stands between the quotation marks of a string. -/
def contentOf (s : String) : Bytes := Utf8.encode (s.toList.flatMap escapeChar)

theorem textBody_eq (s : String) : textBody s = contentOf s ++ [0x22] := rfl

theorem denotes_contentOf (s : String) : Denotes (contentOf s) (Utf8.ofText s) :=
  denotes_iff.2 (Outcome.toOption_eq_some_iff.2 (stringBody_escaped s.toList []))

theorem content_contentOf (s : String) : Content (contentOf s) :=
  content_iff.2 (Outcome.toOption_eq_some_iff.2
    (skipString_of_stringBody (stringBody_escaped s.toList [])))

theorem form_moreItems {items : List Json} (h : ∀ item ∈ items, Form .value (bytes item)) :
    Form (.inside .list false) (moreItems items ++ [0x5D]) := by
  induction items with
  | nil => exact .close blank_nil
  | cons item items ih =>
    obtain ⟨here, h⟩ := List.forall_mem_cons.1 h
    have form := Form.next (.comma blank_nil) (.item blank_nil) here (ih h)
    simpa [moreItems] using form

theorem form_moreMembers {members : List (String × Json)}
    (h : ∀ member ∈ members, Form .value (bytes member.2)) :
    Form (.inside .object false) (moreMembers members ++ [0x7D]) := by
  induction members with
  | nil => exact .close blank_nil
  | cons member members ih =>
    obtain ⟨here, h⟩ := List.forall_mem_cons.1 h
    have form := Form.next (.comma blank_nil)
      (.member blank_nil (content_contentOf member.1) blank_nil blank_nil) here (ih h)
    simpa [moreMembers, memberBytes, textBody_eq] using form

/-- Every document has the form of JSON when it is written. -/
theorem form_bytes (v : Json) : Form .value (bytes v) := by
  induction v using Json.induct with
  | null => exact .null
  | bool b =>
    cases b with
    | false => exact .false
    | true => exact .true
  | num n =>
    cases n with
    | int value range =>
      have magnitude (n : ℕ) : Magnitude (Utf8.encode (natText n)) := by
        obtain ⟨m, magnitude, split⟩ :=
          exists_magnitude (skipNumber_of_scan (scan_natText Bool.false n (nofun : Ends [])))
        rwa [List.append_cancel_right split]
      rw [bytes_int]
      split_ifs
      · exact .negative (magnitude _)
      · exact .number (magnitude _)
    | double value finite => exact form_double value finite
  | str s =>
    rw [bytes_str, textBody_eq]
    exact .string (content_contentOf s)
  | arr items ih =>
    rw [bytes_arr]
    refine @Form.bracket .list _ ?_
    cases items with
    | nil => exact .close blank_nil
    | cons item items =>
      obtain ⟨here, ih⟩ := List.forall_mem_cons.1 ih
      have form := Form.next .first (.item blank_nil) here (form_moreItems ih)
      simpa [encode_renderItems] using form
  | obj members ih =>
    rw [bytes_obj]
    refine @Form.bracket .object _ ?_
    cases members with
    | nil => exact .close blank_nil
    | cons member members =>
      obtain ⟨here, ih⟩ := List.forall_mem_cons.1 ih
      have form := Form.next .first
        (.member blank_nil (content_contentOf member.1) blank_nil blank_nil) here
        (form_moreMembers ih)
      simpa [encode_renderMembers, memberBytes, textBody_eq] using form

/-! ## Objects -/

/-- A member of an object as it is written. -/
def MemberText.printed (member : String × Json) : MemberText :=
  .tight (contentOf member.1) (bytes member.2) (content_contentOf member.1) (form_bytes member.2)

/-- The members of an object that is written stand there one by one. -/
theorem memberTexts_printed (members : List (String × Json)) :
    memberTexts true (members.map MemberText.printed) [] =
      Utf8.encode (renderMembers members) ++ [0x7D] := by
  have named (member : String × Json) (rest : Bytes) :
      0x22 :: (MemberText.printed member).named rest = memberBytes member ++ rest := by
    simp [MemberText.named, MemberText.behind, MemberText.printed, MemberText.tight, memberBytes,
      textBody_eq]
  have lead (member : String × Json) : (MemberText.printed member).lead = [] := rfl
  have others (members : List (String × Json)) :
      memberTexts false (members.map MemberText.printed) [] = moreMembers members ++ [0x7D] := by
    induction members with
    | nil => rfl
    | cons member members ih =>
      rw [List.map_cons, memberTexts, named, lead, ih, comma, if_neg Bool.false_ne_true]
      simp [moreMembers]
  cases members with
  | nil => rfl
  | cons member members =>
    rw [List.map_cons, memberTexts, named, lead, others, encode_renderMembers, comma, if_pos rfl]
    simp

theorem bytes_printed (members : List (String × Json)) :
    (ObjectText.tight (members.map MemberText.printed)).bytes = bytes (.obj members) := by
  rw [bytes_obj, ← memberTexts_printed]
  rfl

end HomeBus.Json
