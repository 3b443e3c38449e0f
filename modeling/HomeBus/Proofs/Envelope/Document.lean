import HomeBus.Proofs.Envelope.RoundTrip

/-!
# Messages as documents

A message is written to bytes, its members one after the other, or to a document, whose members
are in order of their keys. Both stand for the same document.

Results:
* `collapse_members`: the members that are written make up the document of the message.
* `ofJson_toJson`: a message is read back from its document, however deep its value is.
* `parse_encodeOrdered`: the bytes of a message hold its document.
* `writers_agree`: what is written to bytes is what is written to a document.
-/

namespace HomeBus.Envelope

open Json (Reader Decoder maxDepth)

variable {m : Message} {props : List (String × String)}

/-- Only the properties may have to be put in order within the members that are written. -/
theorem collapseMembers_members (emitCorid : Bool) (perm : props.Perm m.props.entries)
    (canonical : m.value.Canonical) :
    Json.collapseMembers (members emitCorid props m) = members emitCorid m.props.entries m := by
  have value : m.value.collapse = m.value := Json.collapse_of_canonical canonical
  have tags := Json.collapse_of_canonical (Decoder.canonical_texts m.tags)
  have dict := Decoder.collapse_textMembers perm m.props.sorted
  have texts (s : String) : (Json.str s).collapse = .str s := rfl
  unfold Decoder.textMember at dict
  unfold members
  rw [Json.collapseMembers_append]
  split_ifs <;> simp only [Json.collapseMembers, value, tags, dict, texts]

/-- The members that are written make up the document of the message. -/
theorem collapse_members (emitCorid : Bool) (perm : props.Perm m.props.entries)
    (canonical : m.value.Canonical) :
    (Json.obj (members emitCorid props m)).collapse = toJson emitCorid m := by
  rw [Json.collapse, collapseMembers_members emitCorid perm canonical, toJson]

/-- A message is read back from its document, however deep its value is. -/
theorem ofJson_toJson (emitCorid : Bool) (canonical : m.value.Canonical) :
    ofJson (toJson emitCorid m) = .ok (delivered emitCorid m) := by
  rw [← collapse_members emitCorid (.refl _) canonical]
  exact ofJson_members emitCorid (.refl _) canonical

/-- The bytes of a message hold its document, whatever the order of its properties. -/
theorem parse_encodeOrdered (emitCorid : Bool) (perm : props.Perm m.props.entries)
    (canonical : m.value.Canonical) (integral : m.value.Integral)
    (fits : m.value.depth ≤ maxDepth - 1) :
    Json.parse (encodeOrdered emitCorid props m) = .ok (toJson emitCorid m) := by
  have text := document_encodeOrdered emitCorid props integral fits
  have tree := collapse_members emitCorid perm canonical
  exact Reader.parse_eq_ok_iff.2 ⟨_, text, tree⟩

/-- What is written to bytes is what is written to a document: the document has the message at
    every depth of its value, and is what the bytes hold wherever the value is not too deep. -/
theorem writers_agree (emitCorid : Bool) (m : Message) (canonical : m.value.Canonical)
    (integral : m.value.Integral) :
    ofJson (toJson emitCorid m) = .ok (if emitCorid then m else { m with corid := "" }) ∧
      (Codec.json emitCorid).encode m = .ok (encodeOrdered emitCorid m.props.entries m) ∧
      (m.value.depth ≤ 126 → ∀ props, props.Perm m.props.entries →
        Json.parse (encodeOrdered emitCorid props m) = .ok (toJson emitCorid m) ∧
        (Codec.json emitCorid).decode (encodeOrdered emitCorid props m) =
          ofJson (toJson emitCorid m)) := by
  have tree := ofJson_toJson emitCorid canonical
  rw [decode_codec]
  refine ⟨tree, rfl, ?_⟩
  intro fits props perm
  constructor
  · exact parse_encodeOrdered emitCorid perm canonical integral fits
  · have bytes := decode_encodeOrdered emitCorid perm canonical integral fits
    exact bytes.trans tree.symm

/-- A message whose value and properties need escapes. -/
def nested : Message where
  service := "s"
  msgType := "t"
  valueType := .object
  value := .obj [("k\"", .arr [.obj [("\\", .str "é\n")], .num (.int (-7) (by decide))])]
  tags := ["b", "a"]
  props := ⟨[("a", "\t"), ("b", "2")], by unfold Entries.Sorted; decide⟩
  ver := ""
  uid := "u"
  corid := "c"

/-- Its bytes hold its document in either order of its properties. -/
theorem writers_agree_nested :
    nested.value.Canonical ∧ nested.value.Integral ∧
      Json.parse (encodeOrdered true [("b", "2"), ("a", "\t")] nested) =
        .ok (toJson true nested) ∧
      ofJson (toJson true nested) = .ok nested := by
  have canonical : nested.value.Canonical := by
    simp [nested, Json.Canonical, Json.CanonicalMembers, Json.CanonicalItems, Entries.Sorted]
  have integral : nested.value.Integral := by
    simp [nested, Json.Integral, Json.IntegralMembers, Json.IntegralItems]
  have agree := writers_agree true nested canonical integral
  exact ⟨canonical, integral, (agree.2.2 (by decide) _ (.swap ..)).1, agree.1⟩

end HomeBus.Envelope
