/-!
# UTF-8

Text as bytes and back.

* `encode` writes each character in its shortest form.
* `decode?` reads a byte list and refuses it when it is not UTF-8: stray or missing continuation
  bytes, overlong forms, surrogates and values above U+10FFFF.
-/

namespace HomeBus

/-- A payload as it travels on the wire. -/
abbrev Bytes := List UInt8

namespace Utf8

/-- The bytes of one code point; every value below 2^21 has a form. -/
def encodeNat (n : Nat) : Bytes :=
  if n < 0x80 then [n.toUInt8]
  else if n < 0x800 then [(0xC0 + n / 64).toUInt8, (0x80 + n % 64).toUInt8]
  else if n < 0x10000 then
    [(0xE0 + n / 4096).toUInt8, (0x80 + n / 64 % 64).toUInt8, (0x80 + n % 64).toUInt8]
  else
    [(0xF0 + n / 262144).toUInt8, (0x80 + n / 4096 % 64).toUInt8, (0x80 + n / 64 % 64).toUInt8,
      (0x80 + n % 64).toUInt8]

/-- The bytes of a character. -/
def encodeChar (c : Char) : Bytes := encodeNat c.toNat

/-- The bytes of a list of characters. -/
def encode (cs : List Char) : Bytes := cs.flatMap encodeChar

/-- The code points that are characters: up to U+10FFFF, without the surrogates. -/
def isScalar (n : Nat) : Bool := n < 0xD800 || (0xDFFF < n && n < 0x110000)

/--
Reads the rest of a text when `missing` continuation bytes of the current character are still to
come, `value` holds the bits read so far, and the finished value must be at least `least`.
-/
def decodeFrom (missing value least : Nat) : Bytes → Option (List Char)
  | [] => if missing = 0 then some [] else none
  | b :: rest =>
    let n := b.toNat
    match missing with
    | 0 =>
      if n < 0x80 then (decodeFrom 0 0 0 rest).map (Char.ofNat n :: ·)
      else if n < 0xC0 then none
      else if n < 0xE0 then decodeFrom 1 (n - 0xC0) 0x80 rest
      else if n < 0xF0 then decodeFrom 2 (n - 0xE0) 0x800 rest
      else if n < 0xF8 then decodeFrom 3 (n - 0xF0) 0x10000 rest
      else none
    | more + 1 =>
      if n < 0x80 || 0xC0 ≤ n then none
      else
        let value := value * 64 + (n - 0x80)
        match more with
        | 0 =>
          if least ≤ value && isScalar value then
            (decodeFrom 0 0 0 rest).map (Char.ofNat value :: ·)
          else none
        | still + 1 => decodeFrom (still + 1) value least rest

/-- The characters of a byte list, if it is UTF-8. -/
def decode? (bytes : Bytes) : Option (List Char) := decodeFrom 0 0 0 bytes

/-- The text of a byte list, if it is UTF-8. -/
def text? (bytes : Bytes) : Option String := (decode? bytes).map String.ofList

/-- The UTF-8 bytes of a text. -/
def ofText (s : String) : Bytes := encode s.toList

end Utf8

end HomeBus
