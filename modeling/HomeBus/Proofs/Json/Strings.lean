import HomeBus.Json.Scan
import HomeBus.Proofs.Text.Utf8

/-!
# Strings in JSON texts

Results:
* `stringBody_escapeChar`: what stands for a character inside a string is read as that character.
* `string_textBody`: a string that was written is read back.
* `skipString_of_string`: a string that can be read can be passed over, up to the same place.
-/

namespace HomeBus.Json

/-! ## Reading on -/

theorem prepend_prepend (front back : Bytes) (read : Except Malformed (Bytes × Bytes)) :
    prepend front (prepend back read) = prepend (front ++ back) read := by
  cases read with
  | ok read => simp only [prepend, List.append_assoc]
  | error fault => rfl

theorem prepend_eq_ok {front content rest : Bytes} {read : Except Malformed (Bytes × Bytes)}
    (h : prepend front read = .ok (content, rest)) : ∃ back, read = .ok (back, rest) := by
  cases read with
  | ok read =>
    obtain ⟨back, _⟩ := read
    cases h
    exact ⟨back, rfl⟩
  | error fault => cases h

section

variable {a b c d letter : UInt8}

/-- A byte that stands for itself. -/
theorem stringBody_plain (quote : b ≠ 0x22) (backslash : b ≠ 0x5C) (control : ¬b < 0x20)
    (rest : Bytes) : stringBody (b :: rest) = prepend [b] (stringBody rest) := by
  rw [stringBody.eq_def]
  simp only
  rw [if_neg quote, if_neg backslash, if_neg control]

/-- An escape of one letter. -/
theorem stringBody_letter {byte : UInt8} (h : letterEscape? letter = some byte) (rest : Bytes) :
    stringBody (0x5C :: letter :: rest) = prepend [byte] (stringBody rest) := by
  rw [stringBody.eq_def]
  simp only [h]
  rw [if_neg (by decide)]
  simp only [↓reduceIte]

/-- An escape by the number of a character. -/
theorem stringBody_unit {unit : ℕ} (digits : hexUnit? a b c d = some unit)
    (low : isLowSurrogate unit = false) (high : isHighSurrogate unit = false) (rest : Bytes) :
    stringBody (0x5C :: 0x75 :: a :: b :: c :: d :: rest) =
      prepend (Utf8.encodeNat unit) (stringBody rest) := by
  rw [stringBody.eq_def]
  simp only [show letterEscape? 0x75 = none by decide, digits, low, high]
  rw [if_neg (by decide)]
  simp only [↓reduceIte, Bool.false_eq_true]

theorem stringBody_append {front : Bytes}
    (plain : ∀ b ∈ front, b ≠ 0x22 ∧ b ≠ 0x5C ∧ ¬b < 0x20) (rest : Bytes) :
    stringBody (front ++ rest) = prepend front (stringBody rest) := by
  induction front with
  | nil =>
    rw [List.nil_append]
    cases stringBody rest <;> rfl
  | cons b front ih =>
    obtain ⟨⟨quote, backslash, control⟩, plain⟩ := List.forall_mem_cons.1 plain
    rw [List.cons_append, stringBody_plain quote backslash control, ih plain, prepend_prepend]
    rfl

theorem skipString_plain (quote : b ≠ 0x22) (backslash : b ≠ 0x5C) (control : ¬b < 0x20)
    (rest : Bytes) : skipString (b :: rest) = skipString rest := by
  rw [skipString.eq_def]
  simp only
  rw [if_neg quote, if_neg backslash, if_neg control]

theorem skipString_letter (h : (letterEscape? letter).isSome) (rest : Bytes) :
    skipString (0x5C :: letter :: rest) = skipString rest := by
  rw [skipString.eq_def]
  simp only [h]
  rw [if_neg (by decide)]
  simp only [↓reduceIte]

theorem skipString_unit (digits : (hexUnit? a b c d).isSome) (rest : Bytes) :
    skipString (0x5C :: 0x75 :: a :: b :: c :: d :: rest) = skipString rest := by
  rw [skipString.eq_def]
  simp only [show (letterEscape? 0x75).isSome = false by decide, digits]
  rw [if_neg (by decide)]
  simp only [↓reduceIte, Bool.false_eq_true]

end

/-! ## Strings as they are written -/

/-- A control character as the two last digits of its number. -/
theorem hexUnit?_hexDigit : ∀ n < 0x20, hexUnit? 0x30 0x30 (hexDigit (n / 16)).toNat.toUInt8
    (hexDigit (n % 16)).toNat.toUInt8 = some n := by decide

theorem hexDigit_lt : ∀ n < 16, (hexDigit n).toNat < 0x80 := by decide

/-- A character that may stand for itself has no byte with a meaning of its own. -/
theorem plain_of_mem_encodeChar {c : Char} {b : UInt8} (quote : ¬c = '"') (backslash : ¬c = '\\')
    (control : ¬c.toNat < 0x20) (mem : b ∈ Utf8.encodeChar c) : b ≠ 0x22 ∧ b ≠ 0x5C ∧ ¬b < 0x20 := by
  by_cases ascii : c.toNat < 0x80
  · rw [Utf8.encodeChar_of_lt ascii, List.mem_singleton] at mem
    subst mem
    have back : c.toNat.toUInt8.toNat = c.toNat := Utf8.toNat_toUInt8 (by omega)
    refine ⟨fun same => quote ?_, fun same => backslash ?_, ?_⟩
    · rw [same] at back
      rw [← Char.ofNat_toNat c, ← back]
      rfl
    · rw [same] at back
      rw [← Char.ofNat_toNat c, ← back]
      rfl
    · rw [UInt8.lt_iff_toNat_lt, back]
      exact control
  · have high := Utf8.ascii_lt_of_mem_encodeChar (by omega) mem
    refine ⟨?_, ?_, ?_⟩
    · rintro rfl
      simp at high
    · rintro rfl
      simp at high
    · rw [UInt8.lt_iff_toNat_lt]
      exact Nat.not_lt.2 (Nat.le_trans (by decide) high)

/-- What stands for a character is read as that character. -/
theorem stringBody_escapeChar (c : Char) (rest : Bytes) :
    stringBody (Utf8.encode (escapeChar c) ++ rest) =
      prepend (Utf8.encodeChar c) (stringBody rest) := by
  unfold escapeChar
  split_ifs with quote backslash backspace feed line turn tab control
  -- one letter
  · subst quote
    exact stringBody_letter (by decide) rest
  · subst backslash
    exact stringBody_letter (by decide) rest
  · subst backspace
    exact stringBody_letter (by decide) rest
  · subst feed
    exact stringBody_letter (by decide) rest
  · subst line
    exact stringBody_letter (by decide) rest
  · subst turn
    exact stringBody_letter (by decide) rest
  · subst tab
    exact stringBody_letter (by decide) rest
  -- four digits
  · have digits := hexUnit?_hexDigit c.toNat control
    have high := Utf8.encodeChar_of_lt (hexDigit_lt (c.toNat / 16) (by omega))
    have low := Utf8.encodeChar_of_lt (hexDigit_lt (c.toNat % 16) (by omega))
    simp only [Utf8.encode_cons, Utf8.encode_nil, high, low]
    refine stringBody_unit digits ?_ ?_ rest
    · simp only [isLowSurrogate, Bool.and_eq_false_iff, decide_eq_false_iff_not]
      omega
    · simp only [isHighSurrogate, Bool.and_eq_false_iff, decide_eq_false_iff_not]
      omega
  -- the character itself
  · rw [Utf8.encode_cons, Utf8.encode_nil, List.append_nil]
    exact stringBody_append (fun b mem => plain_of_mem_encodeChar quote backslash control mem) rest

/-- The bytes of a string behind its opening quotation mark. -/
def textBody (s : String) : Bytes := Utf8.encode (s.toList.flatMap escapeChar) ++ [0x22]

theorem encode_stringText (s : String) : Utf8.encode (stringText s) = 0x22 :: textBody s := by
  rw [stringText, Utf8.encode_append, Utf8.encode_cons]
  rfl

theorem stringBody_escaped (cs : List Char) (rest : Bytes) :
    stringBody (Utf8.encode (cs.flatMap escapeChar) ++ 0x22 :: rest) =
      .ok (Utf8.encode cs, rest) := by
  induction cs with
  | nil => 
    rw [List.flatMap_nil, Utf8.encode_nil, List.nil_append, stringBody.eq_def]
    rfl
  | cons c cs ih =>
    rw [List.flatMap_cons, Utf8.encode_append, List.append_assoc, stringBody_escapeChar, ih]
    rfl

/-- A string that was written is read back. -/
theorem string_textBody (s : String) (rest : Bytes) :
    string (textBody s ++ rest) = .ok (s, rest) := by
  rw [textBody, List.append_assoc, List.singleton_append, string, stringBody_escaped]
  simp only
  rw [← Utf8.ofText, Utf8.text?_ofText]

/-! ## Strings that are passed over -/

theorem skipString_of_stringBody {bytes content rest : Bytes}
    (h : stringBody bytes = .ok (content, rest)) : skipString bytes = .ok rest := by
  fun_induction stringBody bytes generalizing content with
  | case2 =>
    cases h
    rw [skipString.eq_def]
    rfl
  | case4 rest' letter byte escape _ ih =>
    obtain ⟨back, read⟩ := prepend_eq_ok h
    rw [skipString_letter (by rw [escape]; rfl), ih read]
  | case10 a b c d high digits _ _ a' b' c' d' rest' low digits' =>
    obtain ⟨back, read⟩ := prepend_eq_ok h
    next ih =>
    rw [skipString_unit (by rw [digits]; rfl), skipString_unit (by rw [digits']; rfl), ih read]
  | case15 a b c d rest' unit digits _ _ _ _ ih =>
    obtain ⟨back, read⟩ := prepend_eq_ok h
    rw [skipString_unit (by rw [digits]; rfl), ih read]
  | case19 b rest' quote backslash control ih =>
    obtain ⟨back, read⟩ := prepend_eq_ok h
    rw [skipString_plain quote backslash control, ih read]
  | _ => cases h

/-- A string that can be read can be passed over. -/
theorem skipString_of_string {bytes rest : Bytes} {s : String} (h : string bytes = .ok (s, rest)) :
    skipString bytes = .ok rest := by
  unfold string at h
  split at h
  · cases h
  · next content _ read =>
    split at h
    · cases h
      exact skipString_of_stringBody read
    · cases h

theorem length_lt_of_skipString {bytes rest : Bytes} (h : skipString bytes = .ok rest) :
    rest.length < bytes.length := by
  fun_induction skipString bytes with
  | case2 =>
    cases h
    exact Nat.lt_succ_self _
  | case4 _ _ _ _ ih | case5 _ _ _ _ _ _ _ _ ih | case10 _ _ _ _ _ ih =>
    have := ih h
    simp only [List.length_cons]
    omega
  | _ => cases h

end HomeBus.Json
