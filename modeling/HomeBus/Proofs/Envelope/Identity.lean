import HomeBus.Proofs.Envelope.Extension
import HomeBus.Proofs.Envelope.RoundTrip
import HomeBus.Proofs.Json.PrintedForm

/-!
# Identities on the wire

Not every message is read back as it was: doubles may come out different, and a value may be too
deep. But a message that is read at all has the uid that was written.

Results:
* `takeText_printed`: a member that was written is read by itself.
* `uid_of_decode`: whatever is read of the bytes of a message has its uid.
-/

namespace HomeBus.Envelope

open Json (MemberText ObjectText)
open Json.MemberText (printed)

variable {draft next final : Draft} {field : Field} {key : String} {v : Json}

/-- A member that was written is read by itself. -/
theorem takeText_printed (taken : takeText draft (printed (key, v)) = some next) :
    ∃ left, readMember draft key (0x3A :: Json.bytes v) = .ok (next, left) := by
  unfold takeText at taken
  obtain ⟨⟨_, left⟩, read, rfl⟩ := Option.map_eq_some_iff.1 taken
  obtain ⟨key', name, here⟩ := readText_eq_some_iff.1 read
  have same := Json.string_of_denotes (Json.denotes_contentOf key)
    ((printed (key, v)).behind [])
  obtain rfl : key = key' := congrArg Prod.fst (Except.ok.inj (same.symm.trans name))
  have behind : (printed (key, v)).behind [] = 0x3A :: Json.bytes v := by
    simp [MemberText.behind, printed, MemberText.tight]
  exact ⟨left, behind ▸ here⟩

/-- A member of an envelope that was written is read as one. -/
theorem read_of_takeText (taken : takeText draft (printed (field.name, v)) = some next) :
    ∃ left, field.read draft (Json.bytes v) = .ok (next, left) := by
  obtain ⟨left, read⟩ := takeText_printed taken
  cases new : draft.has field with
  | false => exact ⟨left, readMember_name new _ ▸ read⟩
  | true =>
    rw [readMember, field.ofName?_name] at read
    simp only [new, ↓reduceIte] at read
    cases read

theorem uid_of_takeText (other : field ≠ .uid)
    (taken : takeText draft (printed (field.name, v)) = some next) : next.uid = draft.uid := by
  obtain ⟨left, read⟩ := read_of_takeText taken
  unfold Field.read at read
  cases field with
  | uid => exact absurd rfl other
  | _ =>
    obtain ⟨_, -, rfl⟩ := store_eq_ok_iff.1 read
    rfl

theorem nullOr_text_bytes (s : String) :
    Json.Reader.nullOr Json.Reader.text (Json.bytes (.str s)) = .ok (some s, []) := by
  have text := text_bytes s []
  rw [List.append_nil] at text
  unfold Json.Reader.nullOr
  rw [Json.bytes_str, Json.skipBlank_of_isBlank (by decide)]
  simp only
  rw [if_neg (by decide), ← Json.bytes_str, text]
  rfl

theorem uid_of_takeText_uid {s : String}
    (taken : takeText draft (printed (Field.uid.name, .str s)) = some next) :
    next.uid = some (some s) := by
  obtain ⟨left, read⟩ := read_of_takeText taken
  have stored : Field.uid.read draft (Json.bytes (.str s)) =
      .ok ({ draft with uid := some (some s) }, []) :=
    store_of_read (nullOr_text_bytes s) fun s => { draft with uid := some s }
  rw [stored] at read
  cases read
  rfl

/-- Members that are not the uid do not change it. -/
theorem uid_of_foldlM {members : List (String × Json)}
    (others : ∀ member ∈ members, ∃ field : Field, field ≠ .uid ∧ member.1 = field.name)
    (folded : (members.map printed).foldlM takeText draft = some final) :
    final.uid = draft.uid := by
  induction members generalizing draft with
  | nil =>
    cases folded
    rfl
  | cons member members ih =>
    obtain ⟨⟨field, other, name⟩, rest⟩ := List.forall_mem_cons.1 others
    obtain ⟨key, v⟩ := member
    obtain rfl := name
    rw [List.map_cons, List.foldlM_cons] at folded
    obtain ⟨between, taken, folded⟩ := Option.bind_eq_some_iff.1 folded
    rw [ih rest folded, uid_of_takeText other taken]

/-- Whatever is read of the bytes of a message has its uid. -/
theorem uid_of_decode {emitCorid : Bool} {props : List (String × String)} {m m' : Message}
    (received : decode (encodeOrdered emitCorid props m) = .ok m') : m'.uid = m.uid := by
  have split : ∃ before behind, members emitCorid props m =
        before ++ (Field.uid.name, .str m.uid) :: behind ∧
      ∀ member ∈ behind, ∃ field : Field, field ≠ .uid ∧ member.1 = field.name := by
    refine ⟨(members emitCorid props m).take 8, (members emitCorid props m).drop 9, rfl, ?_⟩
    rw [show (members emitCorid props m).drop 9 =
      if emitCorid && m.corid ≠ "" then [(Field.corid.name, Json.str m.corid)] else [] from rfl]
    split
    · exact List.forall_mem_singleton.2 ⟨.corid, by decide, rfl⟩
    · exact List.forall_mem_nil _
  obtain ⟨before, behind, split, others⟩ := split
  rw [encodeOrdered, ← Json.bytes_printed] at received
  obtain ⟨draft, folded, done⟩ := decode_objectText.1 received
  rw [ObjectText.tight] at folded
  dsimp only at folded
  rw [split, List.map_append, List.map_cons, List.foldlM_append] at folded
  obtain ⟨start, -, folded⟩ := Option.bind_eq_some_iff.1 folded
  rw [List.foldlM_cons] at folded
  obtain ⟨between, taken, folded⟩ := Option.bind_eq_some_iff.1 folded
  have filled : draft.uid.join.getD "" = m'.uid := Draft.finish_eq_ok_iff.1 done .uid
  rw [← filled, uid_of_foldlM others folded, uid_of_takeText_uid taken]
  rfl

end HomeBus.Envelope
