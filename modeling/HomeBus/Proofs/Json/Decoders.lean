import HomeBus.Message.ValueType
import HomeBus.Proofs.Json.Tree
import HomeBus.Proofs.Outcome
import Mathlib.Data.Set.List

/-!
# What decoders accept

Results:
* `text_eq_ok_iff`, `texts_eq_ok_iff`, `textDict_eq_ok_iff`, `valueType_eq_ok_iff`: the documents
  that the decoders of an envelope's parts accept, and what they make of them.
* `text_collapse`, `nullOr_collapse`, `texts_collapse`: these decoders do not see repeated keys.
* `toOption_valueType_collapse`: neither does that of value types in an object without such keys.
* `toOption_textDict_collapse`: neither does that of properties when only strings are overwritten.
* `canonical_texts`, `integral_texts`, `depth_texts_le` and the same for `textMembers`: lists and
  objects of texts are canonical, without doubles and flat.
-/

namespace HomeBus.Json.Decoder

variable {α : Type} {decoder : Decoder α} {v w : Json} {members : List (String × Json)}

/-! ## Accepted documents -/

theorem text_eq_ok_iff {s : String} : text v = .ok s ↔ v = .str s := by
  cases v <;> simp [text]

theorem nullOr_eq_ok_iff {found : Option α} :
    nullOr decoder v = .ok found ↔
      v = .null ∧ found = none ∨ v ≠ .null ∧ ∃ a, decoder v = .ok a ∧ found = some a := by
  cases v with
  | null => simp [nullOr, eq_comm]
  | _ =>
    rw [nullOr]
    · cases decoder _ <;> simp [Except.map, eq_comm]
    · exact nofun

theorem mapM_text_eq_ok_iff {items : List Json} {l : List String} :
    items.mapM text = .ok l ↔ items = l.map .str := by
  induction items generalizing l with
  | nil =>
    cases l with
    | nil => exact iff_of_true rfl rfl
    | cons s l => exact iff_of_false nofun nofun
  | cons item items ih =>
    rw [List.mapM_cons, Outcome.bind_eq_ok_iff]
    constructor
    · rintro ⟨s, here, read⟩
      obtain ⟨l', there, ⟨⟩⟩ := Outcome.bind_eq_ok_iff.1 read
      rw [text_eq_ok_iff.1 here, ih.1 there, List.map_cons]
    · intro same
      cases l with
      | nil => cases same
      | cons s l =>
        obtain ⟨rfl, rfl⟩ := List.cons.inj same
        exact ⟨s, rfl, Outcome.bind_eq_ok_iff.2 ⟨l, ih.2 rfl, rfl⟩⟩

theorem texts_eq_ok_iff {l : List String} : listOf text v = .ok l ↔ v = .arr (l.map .str) := by
  cases v with
  | arr items => rw [listOf, mapM_text_eq_ok_iff, arr.injEq]
  | _ => exact iff_of_false nofun nofun

/-- A property as it is read out of a document. -/
def textEntry (member : String × Json) : Except Mismatch (String × String) :=
  (text member.2).map (member.1, ·)

/-- A property as a member. -/
def textMember (entry : String × String) : String × Json := (entry.1, .str entry.2)

theorem textEntry_eq_ok_iff {member : String × Json} {entry : String × String} :
    textEntry member = .ok entry ↔ member = textMember entry := by
  obtain ⟨key, v⟩ := member
  obtain ⟨key', s⟩ := entry
  cases v <;> simp [textEntry, textMember, text, Except.map]

theorem mapM_textEntry_eq_ok_iff {entries : List (String × String)} :
    members.mapM textEntry = .ok entries ↔ members = entries.map textMember := by
  induction members generalizing entries with
  | nil =>
    cases entries with
    | nil => exact iff_of_true rfl rfl
    | cons entry entries => exact iff_of_false nofun nofun
  | cons member members ih =>
    rw [List.mapM_cons, Outcome.bind_eq_ok_iff]
    constructor
    · rintro ⟨entry, here, read⟩
      obtain ⟨entries', there, ⟨⟩⟩ := Outcome.bind_eq_ok_iff.1 read
      rw [textEntry_eq_ok_iff.1 here, ih.1 there, List.map_cons]
    · intro same
      cases entries with
      | nil => cases same
      | cons entry entries =>
        obtain ⟨rfl, rfl⟩ := List.cons.inj same
        exact ⟨entry, textEntry_eq_ok_iff.2 rfl,
          Outcome.bind_eq_ok_iff.2 ⟨entries, ih.2 rfl, rfl⟩⟩

/-- A list of images, each of its entries being one. -/
theorem exists_eq_map_iff {β γ : Type} {f : β → γ} {l : List γ} :
    (∃ k : List β, l = k.map f) ↔ ∀ c ∈ l, ∃ b, c = f b := by
  have range := Set.ext_iff.1 (Set.range_list_map f) l
  constructor
  · rintro ⟨k, same⟩ c mem
    exact (range.1 ⟨k, same.symm⟩ c mem).imp fun _ => Eq.symm
  · intro each
    exact (range.2 fun c mem => (each c mem).imp fun _ => Eq.symm).imp fun _ => Eq.symm

theorem exists_eq_textMember_iff {member : String × Json} :
    (∃ entry, member = textMember entry) ↔ ∃ s, member.2 = .str s := by
  constructor
  · rintro ⟨entry, rfl⟩
    exact ⟨entry.2, rfl⟩
  · rintro ⟨s, text⟩
    exact ⟨(member.1, s), Prod.ext rfl text⟩

theorem sorted_textMember {entries : List (String × String)} :
    Entries.Sorted (entries.map textMember) ↔ Entries.Sorted entries := List.pairwise_map

theorem textDict_eq_ok_iff {dict : Dict String} (canonical : v.Canonical) :
    dictOf text v = .ok dict ↔ v = .obj (dict.entries.map textMember) := by
  cases v with
  | obj members =>
    change ((members.mapM textEntry).map Dict.ofList = .ok dict) ↔ _
    rw [obj.injEq, ← mapM_textEntry_eq_ok_iff]
    cases read : members.mapM textEntry with
    | error e => exact iff_of_false nofun nofun
    | ok entries =>
      have sorted : Entries.Sorted entries := by
        have inside := canonical.1
        rwa [mapM_textEntry_eq_ok_iff.1 read, sorted_textMember] at inside
      rw [Except.map, Dict.ofList, Except.ok.injEq, Except.ok.injEq, Dict.mk.injEq,
        Entries.ofList_of_sorted sorted]
  | _ => exact iff_of_false nofun nofun

theorem ofTag_eq_ok_iff {key : String} {t : ValueType} :
    ValueType.ofTag key = .ok t ↔ key = t.tag := by
  constructor
  · intro h
    unfold ValueType.ofTag at h
    cases found : ValueType.ofTag? key with
    | none =>
      rw [found] at h
      cases h
    | some t' =>
      rw [found] at h
      cases h
      exact (eq_of_beq (List.find?_some found :)).symm
  · rintro rfl
    exact (ValueType.decoder_tag t).1

theorem nullOnly_eq_ok_iff : nullOnly v = .ok () ↔ v = .null := by
  cases v <;> simp [nullOnly]

theorem valueType_eq_ok_iff {t : ValueType} :
    ValueType.decoder v = .ok t ↔ v = .str t.tag ∨ v = .obj [(t.tag, .null)] := by
  refine ⟨fun h => ?_, ?_⟩
  · cases v with
    | str key => exact .inl (congrArg str (ofTag_eq_ok_iff.1 h))
    | obj members =>
      match members, h with
      | [(key, value)], h =>
        obtain ⟨t', tag, rest⟩ := Outcome.bind_eq_ok_iff.1 h
        obtain ⟨_, null, ⟨⟩⟩ := Outcome.bind_eq_ok_iff.1 rest
        rw [ofTag_eq_ok_iff.1 tag, nullOnly_eq_ok_iff.1 null]
        exact .inr rfl
      | [], h => cases h
      | _ :: _ :: _, h => cases h
    | _ => cases h
  · rintro (rfl | rfl)
    · exact (ValueType.decoder_tag t).1
    · exact (ValueType.decoder_tag t).2

/-! ## Collapsed documents -/

theorem text_collapse (w : Json) : text w.collapse = text w := by cases w <;> rfl

theorem nullOnly_collapse (w : Json) : nullOnly w.collapse = nullOnly w := by cases w <;> rfl

theorem nullOr_collapse (h : (decoder w.collapse).toOption = (decoder w).toOption) :
    (nullOr decoder w.collapse).toOption = (nullOr decoder w).toOption := by
  cases w with
  | null => rfl
  | _ =>
    rw [nullOr, nullOr, Outcome.toOption_map, Outcome.toOption_map, h]
    · exact nofun
    · exact nofun

theorem texts_collapse (w : Json) : listOf text w.collapse = listOf text w := by
  cases w with
  | arr items =>
    rw [collapse, listOf, listOf, collapseItems_eq_map, List.mapM_map]
    exact congrArg (items.mapM ·) (funext text_collapse)
  | _ => rfl

/-- In an object without repeated keys there is nothing to overwrite. -/
theorem toOption_valueType_collapse
    (once : ∀ members, w = .obj members → (Entries.keys members).Nodup) :
    (ValueType.decoder w.collapse).toOption = (ValueType.decoder w).toOption := by
  match w with
  | .obj [] => rfl
  | .obj [(key, value)] =>
    change Except.toOption (ValueType.ofTag key >>= fun t =>
      nullOnly value.collapse >>= fun _ => Except.ok t) = _
    rw [nullOnly_collapse]
    rfl
  | .obj (a :: b :: more) =>
    -- The sorted object has as many members.
    have length : (Entries.ofList (collapseMembers (a :: b :: more))).length = more.length + 2 := by
      have distinct := once _ rfl
      rw [← keys_collapseMembers] at distinct
      rw [(Entries.ofList_perm distinct).length_eq, collapseMembers_eq_map, List.length_map,
        List.length_cons, List.length_cons]
    rw [collapse, ofMembers]
    generalize Entries.ofList (collapseMembers (a :: b :: more)) = sorted at length
    obtain _ | ⟨first, _ | ⟨second, others⟩⟩ := sorted
    · cases length
    · cases length
    · rfl
  | .str _ | .null | .bool _ | .num _ | .arr _ => rfl

/-- A member that no later one overwrites is kept. -/
theorem mem_ofList_of_not_mem {front back : List (String × Json)} {key : String}
    (last : key ∉ Entries.keys back) : (key, v) ∈ Entries.ofList (front ++ (key, v) :: back) := by
  refine Entries.mem_of_get? ?_
  rw [Entries.ofList, List.foldl_append, List.foldl_cons,
    Entries.get?_foldl_insert_of_not_mem last, Entries.get?_insert, if_pos rfl]

/-- Where only strings are overwritten, all members are strings if the kept ones are. -/
theorem exists_text_of_kept {entries : List (String × String)}
    (texts : members.Pairwise fun a b => a.1 = b.1 → ∃ s, a.2 = .str s)
    (kept : Entries.ofList (collapseMembers members) = entries.map textMember) :
    ∀ member ∈ members, ∃ s, member.2 = .str s := by
  intro member mem
  obtain ⟨front, back, split⟩ := List.append_of_mem mem
  by_cases later : member.1 ∈ Entries.keys back
  · obtain ⟨other, mem', same⟩ := List.mem_map.1 later
    rw [split, List.pairwise_append, List.pairwise_cons] at texts
    exact texts.2.1.1 other mem' same.symm
  · have inside : (member.1, member.2.collapse) ∈ entries.map textMember := by
      rw [← kept, split, collapseMembers_append]
      refine mem_ofList_of_not_mem ?_
      rwa [keys_collapseMembers]
    obtain ⟨entry, -, same⟩ := List.mem_map.1 inside
    refine ⟨entry.2, text_eq_ok_iff.1 ?_⟩
    have value : Json.str entry.2 = member.2.collapse := (Prod.ext_iff.1 same).2
    rw [← text_collapse, ← value, text]

theorem collapseMembers_textMember (entries : List (String × String)) :
    collapseMembers (entries.map textMember) = entries.map textMember := by
  rw [collapseMembers_eq_map, List.map_map]
  rfl

/-- Properties may be put in order before or after their strings are taken out. -/
theorem ofList_textMember (entries : List (String × String)) :
    Entries.ofList (entries.map textMember) = (Entries.ofList entries).map textMember :=
  Entries.ofList_map

/-- Where only strings are overwritten, nothing that is refused gets lost. -/
theorem toOption_textDict_collapse
    (texts : ∀ members, w = .obj members →
      members.Pairwise fun a b => a.1 = b.1 → ∃ s, a.2 = .str s) :
    (dictOf text w.collapse).toOption = (dictOf text w).toOption := by
  cases w with
  | obj members =>
    change ((Entries.ofList (collapseMembers members)).mapM textEntry |>.map Dict.ofList).toOption =
      (members.mapM textEntry |>.map Dict.ofList).toOption
    cases read : members.mapM textEntry with
    | ok entries =>
      obtain rfl := mapM_textEntry_eq_ok_iff.1 read
      rw [collapseMembers_textMember, ofList_textMember, mapM_textEntry_eq_ok_iff.2 rfl]
      refine congrArg some (Dict.mk.injEq .. ▸ ?_)
      exact Entries.ofList_of_sorted (Entries.sorted_ofList entries)
    | error e =>
      cases kept : (Entries.ofList (collapseMembers members)).mapM textEntry with
      | error e => rfl
      | ok entries =>
        have all := exists_text_of_kept (texts _ rfl) (mapM_textEntry_eq_ok_iff.1 kept)
        obtain ⟨entries, rfl⟩ := exists_eq_map_iff.2 fun member mem =>
          exists_eq_textMember_iff.2 (all member mem)
        rw [mapM_textEntry_eq_ok_iff.2 rfl] at read
        cases read
  | _ => rfl

/-! ## Lists and objects of texts -/

theorem canonical_texts (l : List String) : (arr (l.map .str)).Canonical := by
  rw [Canonical, canonicalItems_iff]
  exact List.forall_mem_map.2 fun _ _ => trivial

theorem canonical_textMembers {entries : List (String × String)} (sorted : Entries.Sorted entries) :
    (obj (entries.map textMember)).Canonical := by
  rw [Canonical, canonicalMembers_iff]
  exact ⟨sorted_textMember.2 sorted, List.forall_mem_map.2 fun _ _ => trivial⟩

theorem integral_texts (l : List String) : (arr (l.map .str)).Integral := by
  rw [Integral, integralItems_iff]
  exact List.forall_mem_map.2 fun _ _ => by simp [Integral]

theorem integral_textMembers (entries : List (String × String)) :
    (obj (entries.map textMember)).Integral := by
  rw [Integral, integralMembers_iff]
  exact List.forall_mem_map.2 fun _ _ => by simp [textMember, Integral]

theorem depth_texts_le (l : List String) : (arr (l.map .str)).depth ≤ 1 := by
  have flat : itemsDepth (l.map .str) ≤ 0 :=
    itemsDepth_le_iff.2 (List.forall_mem_map.2 fun _ _ => Nat.le_refl 0)
  rw [depth]
  omega

theorem depth_textMembers_le (entries : List (String × String)) :
    (obj (entries.map textMember)).depth ≤ 1 := by
  have flat : membersDepth (entries.map textMember) ≤ 0 :=
    membersDepth_le_iff.2 (List.forall_mem_map.2 fun _ _ => Nat.le_refl 0)
  rw [depth]
  omega

/-- Properties that were written in some order are put in order. -/
theorem collapse_textMembers {entries sorted : List (String × String)} (perm : entries.Perm sorted)
    (order : Entries.Sorted sorted) :
    (obj (entries.map textMember)).collapse = .obj (sorted.map textMember) := by
  rw [collapse, collapseMembers_textMember, ofMembers, ofList_textMember,
    Entries.ofList_of_perm perm order]

end HomeBus.Json.Decoder
