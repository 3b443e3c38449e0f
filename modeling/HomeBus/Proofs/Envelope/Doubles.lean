import HomeBus.Proofs.Envelope.RoundTrip

/-!
# Doubles on the wire

A double is sent with the digits that identify it. The reader does not look for the double that they
identify: it takes the significand and the power of ten for doubles of their own and multiplies or
divides these, so that it may arrive at another double near to the one that was sent.

Results:
* `newFloat_survives`: what becomes of a double that is sent, by any codec.
* `newFloat_drifts`: the largest integer below `2 ^ 53` arrives as the one before it.
-/

namespace HomeBus.Message

variable {d : Binary64}

theorem value_newFloat (id : Identity) (msgType service : String) (finite : d.isFinite = true) :
    (newFloat id msgType service d).value = .num (.double d finite) := by
  have found : Json.Number.ofDouble? d = some (.double d finite) := dif_pos finite
  rw [newFloat, new, floatJson, found]

/-- Reading the doubles of a message with a double again is reading the double again. -/
theorem reread_newFloat (id : Identity) (msgType service : String) (finite : d.isFinite = true) :
    Envelope.reread (newFloat id msgType service d) = newFloat id msgType service d.reread := by
  have sent := value_newFloat id msgType service finite
  have read := value_newFloat id msgType service (Binary64.isFinite_reread finite)
  have again : (newFloat id msgType service d).value.reread =
      (newFloat id msgType service d.reread).value := by
    rw [sent, read]
    rfl
  rw [Envelope.reread, again]
  rfl

/-- A finite double that is sent is read again from its digits: as a finite double with its sign, at
    most two doubles away from it, and as itself where the significand and the power of ten that are
    read are doubles, too. The digits identify it in every case. -/
theorem newFloat_survives (id : Identity) (msgType service : String) (finite : d.isFinite = true)
    (emitCorid reads : Bool) :
    let sent := newFloat id msgType service d
    (Codec.json emitCorid).encode sent = .ok (Envelope.encode emitCorid sent) ∧
      (Codec.json reads).decode (Envelope.encode emitCorid sent) =
        .ok (newFloat id msgType service d.reread) ∧
      d.reread.isFinite = true ∧ d.reread.isNegative = d.isNegative ∧
      d.reread.magnitude ≤ d.magnitude + 2 ∧ d.magnitude ≤ d.reread.magnitude + 2 ∧
      ((Json.asRead d.shortest).digits ≤ 2 ^ 53 → -22 ≤ (Json.asRead d.shortest).exponent →
        (Json.asRead d.shortest).exponent ≤ 22 → d.reread = d) ∧
      Binary64.ofDecimal d.isNegative d.shortest.digits d.shortest.exponent = d := by
  intro sent
  have value : sent.value = .num (.double d finite) := value_newFloat id msgType service finite
  have canonical : sent.value.Canonical := by
    rw [value]
    trivial
  have fits : sent.value.depth ≤ Json.maxDepth - 1 := by
    rw [value]
    exact Nat.zero_le _
  have read := Envelope.decode_encodeOrdered_reread emitCorid (.refl _) canonical fits
  -- The message answers no other one, so there is no `corid` to be left out.
  have whole : Envelope.delivered emitCorid (Envelope.reread sent) =
      newFloat id msgType service d.reread := by
    rw [reread_newFloat id msgType service finite]
    cases emitCorid <;> rfl
  rw [whole] at read
  obtain ⟨sign, up, down⟩ := Binary64.reread_near finite
  rw [Envelope.decode_codec]
  exact ⟨rfl, read, Binary64.isFinite_reread finite, sign, up, down, Binary64.reread_eq finite,
    Binary64.ofDecimal_shortest finite⟩

/-- A temperature of -21.3 degrees arrives as it was sent. -/
theorem newFloat_survives_temperature :
    Binary64.isFinite ⟨0xC0354CCCCCCCCCCD⟩ = true ∧
      (Codec.json false).decode
          (Envelope.encode true (newFloat ⟨"u", "0"⟩ "t" "s" ⟨0xC0354CCCCCCCCCCD⟩)) =
        .ok (newFloat ⟨"u", "0"⟩ "t" "s" ⟨0xC0354CCCCCCCCCCD⟩) := by
  have finite : Binary64.isFinite ⟨0xC0354CCCCCCCCCCD⟩ = true := by decide
  obtain ⟨-, read, -, -, -, -, same, -⟩ :=
    newFloat_survives ⟨"u", "0"⟩ "t" "s" finite true false
  rw [same (by decide +kernel) (by decide +kernel) (by decide +kernel)] at read
  exact ⟨finite, read⟩

/-- The largest integer below `2 ^ 53` is written as 9007199254740991.0. The significand
    90071992547409910 is rounded before it is divided by ten, and the even integer below arrives. -/
theorem newFloat_drifts :
    Binary64.isFinite ⟨0x433FFFFFFFFFFFFF⟩ = true ∧
      (Codec.json true).decode
          (Envelope.encode true (newFloat ⟨"u", "0"⟩ "t" "s" ⟨0x433FFFFFFFFFFFFF⟩)) =
        .ok (newFloat ⟨"u", "0"⟩ "t" "s" ⟨0x433FFFFFFFFFFFFE⟩) ∧
      newFloat ⟨"u", "0"⟩ "t" "s" ⟨0x433FFFFFFFFFFFFE⟩ ≠
        newFloat ⟨"u", "0"⟩ "t" "s" ⟨0x433FFFFFFFFFFFFF⟩ := by
  have received : Envelope.decode
      (Envelope.encode true (newFloat ⟨"u", "0"⟩ "t" "s" ⟨0x433FFFFFFFFFFFFF⟩)) =
      .ok (newFloat ⟨"u", "0"⟩ "t" "s" ⟨0x433FFFFFFFFFFFFE⟩) :=
    Outcome.toOption_eq_some_iff.1 (by decide +kernel)
  rw [Envelope.decode_codec]
  exact ⟨by decide, received, by decide⟩

end HomeBus.Message
