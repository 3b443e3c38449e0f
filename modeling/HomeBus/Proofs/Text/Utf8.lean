import HomeBus.Text.Utf8
import Mathlib.Tactic.Common

/-!
# Text and its bytes

Results:
* `decodeFrom_encodeChar`: the bytes of a character are read as that character, whatever follows.
* `text?_ofText`: text that was written as bytes is read back.
* `ascii_lt_of_mem_encodeChar`: outside ASCII, no byte of a character is an ASCII one.
-/

namespace HomeBus.Utf8

/-! ## Writing -/

@[simp] theorem encode_nil : encode [] = [] := rfl

@[simp] theorem encode_cons (c : Char) (cs : List Char) :
    encode (c :: cs) = encodeChar c ++ encode cs := rfl

@[simp] theorem encode_append (cs ds : List Char) :
    encode (cs ++ ds) = encode cs ++ encode ds := List.flatMap_append

theorem toNat_toUInt8 {n : ℕ} (h : n < 256) : n.toUInt8.toNat = n := by
  simp only [Nat.toUInt8_eq, UInt8.toNat_ofNat']
  omega

/-- A character is a code point up to U+10FFFF outside the range of the surrogates. -/
theorem toNat_valid (c : Char) :
    c.toNat < 0xD800 ∨ 0xDFFF < c.toNat ∧ c.toNat < 0x110000 := c.valid

theorem isScalar_toNat (c : Char) : isScalar c.toNat = true := by
  have valid := toNat_valid c
  simp only [isScalar, Bool.or_eq_true, Bool.and_eq_true, decide_eq_true_eq]
  omega

/-- An ASCII character is one byte. -/
theorem encodeChar_of_lt {c : Char} (h : c.toNat < 0x80) : encodeChar c = [c.toNat.toUInt8] := by
  rw [encodeChar, encodeNat, if_pos h]

/-- Outside ASCII, no byte of a character is an ASCII one. -/
theorem ascii_lt_of_mem_encodeChar {c : Char} (h : 0x80 ≤ c.toNat) {b : UInt8}
    (mem : b ∈ encodeChar c) : 0x80 ≤ b.toNat := by
  have valid := toNat_valid c
  unfold encodeChar encodeNat at mem
  rw [if_neg (by omega)] at mem
  split_ifs at mem
  all_goals
    simp only [List.mem_cons, List.not_mem_nil, or_false] at mem
    rcases mem with rfl | rfl | rfl | rfl <;> rw [toNat_toUInt8 (by omega)] <;> omega

/-! ## Reading back -/

/-- A continuation byte that is not the last one of its character. -/
theorem decodeFrom_more {more value least n : ℕ} (h : n < 64) (rest : Bytes) :
    decodeFrom (more + 2) value least ((0x80 + n).toUInt8 :: rest) =
      decodeFrom (more + 1) (value * 64 + n) least rest := by
  rw [decodeFrom]
  simp only [toNat_toUInt8 (show 0x80 + n < 256 by omega), Nat.add_sub_cancel_left]
  rw [if_neg (by simp only [Bool.or_eq_true, decide_eq_true_eq]; omega)]

/-- The last byte of a character in its shortest form. -/
theorem decodeFrom_last {value least n : ℕ} {c : Char} (h : n < 64)
    (whole : value * 64 + n = c.toNat) (long : least ≤ c.toNat) (rest : Bytes) :
    decodeFrom 1 value least ((0x80 + n).toUInt8 :: rest) =
      (decodeFrom 0 0 0 rest).map (c :: ·) := by
  rw [decodeFrom]
  simp only [toNat_toUInt8 (show 0x80 + n < 256 by omega), Nat.add_sub_cancel_left, whole]
  rw [if_neg (by simp only [Bool.or_eq_true, decide_eq_true_eq]; omega),
    if_pos (by simp only [Bool.and_eq_true, decide_eq_true_eq, isScalar_toNat, long, and_self]),
    Char.ofNat_toNat]

theorem decodeFrom_encodeChar (c : Char) (rest : Bytes) :
    decodeFrom 0 0 0 (encodeChar c ++ rest) = (decodeFrom 0 0 0 rest).map (c :: ·) := by
  have valid := toNat_valid c
  unfold encodeChar encodeNat
  split_ifs with one two three
  · rw [List.singleton_append, decodeFrom]
    simp only [toNat_toUInt8 (show c.toNat < 256 by omega)]
    rw [if_pos one, Char.ofNat_toNat]
  · rw [List.cons_append, decodeFrom]
    simp only [toNat_toUInt8 (show 0xC0 + c.toNat / 64 < 256 by omega)]
    rw [if_neg (by omega), if_neg (by omega), if_pos (by omega)]
    exact decodeFrom_last (by omega) (by omega) (by omega) rest
  · rw [List.cons_append, decodeFrom]
    simp only [toNat_toUInt8 (show 0xE0 + c.toNat / 4096 < 256 by omega)]
    rw [if_neg (by omega), if_neg (by omega), if_neg (by omega), if_pos (by omega),
      List.cons_append, decodeFrom_more (by omega)]
    exact decodeFrom_last (by omega) (by omega) (by omega) rest
  · rw [List.cons_append, decodeFrom]
    simp only [toNat_toUInt8 (show 0xF0 + c.toNat / 262144 < 256 by omega)]
    rw [if_neg (by omega), if_neg (by omega), if_neg (by omega), if_neg (by omega),
      if_pos (by omega), List.cons_append, decodeFrom_more (by omega), List.cons_append,
      decodeFrom_more (by omega)]
    exact decodeFrom_last (by omega) (by omega) (by omega) rest

theorem decode?_encode (cs : List Char) : decode? (encode cs) = some cs := by
  induction cs with
  | nil => rfl
  | cons c cs ih =>
    rw [decode?] at ih ⊢
    rw [encode_cons, decodeFrom_encodeChar, ih, Option.map_some]

/-- Text that was written as bytes is read back. -/
theorem text?_ofText (s : String) : text? (ofText s) = some s := by
  rw [text?, ofText, decode?_encode, Option.map_some, String.ofList_toList]

end HomeBus.Utf8
