import HomeBus.Proofs.Json.Doubles

/-!
# Documents that were written and read

What becomes of a document when it is written and read: every double in it is read again from its
text, and everything else stays. Without doubles a document is read back as it is.

Results:
* `written_bytes`: what is read of the text of any document, whatever follows it.
* `reread_of_integral`, `canonical_reread`: what stays when doubles are read again.
-/

namespace HomeBus.Json

/-! ## Reading doubles again -/

/-- The number that the text of a number is read as. -/
def Number.reread : Number → Number
  | .int value range => .int value range
  | .double value finite => .double value.reread (Binary64.isFinite_reread finite)

mutual

/-- The document with all its doubles read again. -/
def reread : Json → Json
  | .num n => .num n.reread
  | .arr items => .arr (rereadItems items)
  | .obj members => .obj (rereadMembers members)
  | other => other

def rereadItems : List Json → List Json
  | [] => []
  | item :: rest => reread item :: rereadItems rest

def rereadMembers : List (String × Json) → List (String × Json)
  | [] => []
  | (key, value) :: rest => (key, reread value) :: rereadMembers rest

end

theorem rereadItems_eq_map (items : List Json) : rereadItems items = items.map reread := by
  induction items with
  | nil => rfl
  | cons item rest ih => rw [rereadItems, ih, List.map_cons]

theorem rereadMembers_eq_map (members : List (String × Json)) :
    rereadMembers members = members.map fun member => (member.1, member.2.reread) := by
  induction members with
  | nil => rfl
  | cons member rest ih => rw [rereadMembers, ih, List.map_cons]

/-- A document without doubles stays as it is. -/
theorem reread_of_integral {v : Json} (integral : v.Integral) : v.reread = v := by
  induction v using induct with
  | null | bool | str => rfl
  | num n =>
    cases n with
    | int value range => rfl
    | double value finite => exact integral.elim
  | arr items ih =>
    rw [Integral, integralItems_iff] at integral
    have each := List.map_congr_left fun item mem => ih item mem (integral item mem)
    rw [reread, rereadItems_eq_map, each, List.map_id']
  | obj members ih =>
    rw [Integral, integralMembers_iff] at integral
    rw [reread, rereadMembers_eq_map,
      map_members_eq_self fun member mem => ih member mem (integral member mem)]

/-- Keys stay as they are. -/
theorem canonical_reread {v : Json} (h : v.Canonical) : v.reread.Canonical := by
  induction v using induct with
  | null | bool | num | str => trivial
  | arr items ih =>
    rw [Canonical, canonicalItems_iff] at h
    rw [reread, Canonical, canonicalItems_iff, rereadItems_eq_map]
    exact List.forall_mem_map.2 fun item mem => ih item mem (h item mem)
  | obj members ih =>
    rw [Canonical, canonicalMembers_iff] at h
    rw [reread, Canonical, canonicalMembers_iff, rereadMembers_eq_map]
    exact ⟨List.pairwise_map.2 h.1,
      List.forall_mem_map.2 fun member mem => ih member mem (h.2 member mem)⟩

/-! ## Documents that were written -/

open Reader

/-- What is read of the text of a document, whatever follows it. -/
theorem written_bytes (v : Json) (room : ℕ) {rest : Bytes} (ends : Ends rest) :
    written room (bytes v ++ rest) = ((fit room v).map reread).map (·, rest) := by
  induction v using induct generalizing room rest with
  | null =>
    rw [fit_of_le (Nat.zero_le _)]
    exact written_eq_ok_iff.2 ⟨_, _, rfl, .null rfl⟩
  | bool b =>
    rw [fit_of_le (Nat.zero_le _)]
    cases b with
    | true => exact written_eq_ok_iff.2 ⟨_, _, rfl, .true rfl⟩
    | false => exact written_eq_ok_iff.2 ⟨_, _, rfl, .false rfl⟩
  | num n =>
    rw [fit_of_le (Nat.zero_le _)]
    cases n with
    | int value range => exact written_int value range room ends
    | double d finite => exact written_double room finite ends
  | str s =>
    rw [fit_of_le (Nat.zero_le _), bytes_str]
    exact written_eq_ok_iff.2 ⟨_, _, rfl, .text (string_textBody s rest)⟩
  | arr items ih =>
    rw [bytes_arr, List.cons_append, List.append_assoc, List.singleton_append]
    cases room with
    | zero => rfl
    | succ room =>
      rw [written_list, listOf_text (fun v _ => (form_bytes v).eq_cons)
        (fun v mem rest ends => ih v mem room ends), mapM_fit]
      rcases Nat.lt_or_ge room (itemsDepth items) with deep | fits
      · rw [if_neg (Nat.not_le.2 deep), fit_of_lt (Nat.succ_lt_succ deep)]
        rfl
      · rw [if_pos fits, fit_of_le (Nat.succ_le_succ fits), ← rereadItems_eq_map]
        rfl
  | obj members ih =>
    rw [bytes_obj, List.cons_append, List.append_assoc, List.singleton_append]
    cases room with
    | zero => rfl
    | succ room =>
      have member : ∀ before, ∀ m ∈ members, ∀ rest, Ends rest →
          addMember (written room) before m.1 (0x3A :: bytes m.2 ++ rest) =
            ((fit room m.2).map fun v => before ++ [(m.1, v.reread)]).map (·, rest) := by
        intro before m mem rest ends
        have read := ih m mem room ends
        change (written room (bytes m.2 ++ rest) >>= fun read =>
          Except.ok (before ++ [(m.1, read.1)], read.2)) = _
        rw [read]
        cases fit room m.2 <;> rfl
      rw [written_object, membersOf_text member, foldlM_fit reread, List.nil_append]
      rcases Nat.lt_or_ge room (membersDepth members) with deep | fits
      · rw [if_neg (Nat.not_le.2 deep), fit_of_lt (Nat.succ_lt_succ deep)]
        rfl
      · rw [if_pos fits, fit_of_le (Nat.succ_le_succ fits), ← rereadMembers_eq_map]
        rfl

end HomeBus.Json
