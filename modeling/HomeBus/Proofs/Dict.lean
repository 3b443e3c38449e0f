import HomeBus.Dict
import Mathlib.Data.List.Nodup
import Mathlib.Data.List.Perm.Basic
import Mathlib.Tactic.Common

/-!
# Entries and the order in which they come

Results:
* `ofList_of_sorted`: entries that are in order already stay as they are.
* `ofList_of_perm`: entries with distinct keys may come in any order.
* `get?_ofList`: an entry whose key comes once is found under its key.
-/

namespace HomeBus.Entries

variable {α : Type _} {key : String} {value : α} {entries pairs : List (String × α)}

/-- The keys in the order of the entries. -/
def keys (entries : List (String × α)) : List String := entries.map Prod.fst

theorem Sorted.keys_nodup (h : Sorted entries) : (keys entries).Nodup :=
  List.pairwise_map.2 (h.imp fun less => String.ne_of_lt less)

theorem get?_of_not_mem (h : key ∉ keys entries) : get? key entries = none := by
  induction entries with
  | nil => rfl
  | cons entry rest ih =>
    rw [keys, List.map_cons, List.mem_cons, not_or] at h
    rw [get?, if_neg (Ne.symm h.1), ih h.2]

theorem count_keys_of_cons {entry : String × α} (once : (keys (entry :: entries)).count key ≤ 1) :
    (keys entries).count key ≤ 1 :=
  Nat.le_trans ((List.sublist_cons_self ..).count_le _) once

/-- A key that comes once does not come again behind its entry. -/
theorem not_mem_of_count_cons (once : (keys ((key, value) :: entries)).count key ≤ 1) :
    key ∉ keys entries := by
  rw [keys, List.map_cons, List.count_cons_self] at once
  exact List.count_eq_zero.1 (Nat.le_zero.1 (Nat.le_of_succ_le_succ once))

/-! ## One entry -/

/-- An entry behind all others is put at the end. -/
theorem insert_of_forall_lt (h : ∀ entry ∈ entries, entry.1 < key) :
    insert key value entries = entries ++ [(key, value)] := by
  induction entries with
  | nil => rfl
  | cons entry rest ih =>
    obtain ⟨first, others⟩ := List.forall_mem_cons.1 h
    have behind : ¬key < entry.1 := fun before =>
      String.lt_irrefl _ (String.lt_trans first before)
    rw [insert, if_neg behind, if_pos first, ih others]
    rfl

/-- An entry with a new key is added. -/
theorem insert_perm (h : key ∉ keys entries) :
    (insert key value entries).Perm ((key, value) :: entries) := by
  induction entries with
  | nil => exact .refl _
  | cons entry rest ih =>
    obtain ⟨k, v⟩ := entry
    rw [keys, List.map_cons, List.mem_cons, not_or] at h
    unfold insert
    split_ifs with before behind
    · exact .refl _
    · exact ((ih h.2).cons (k, v)).trans (.swap ..)
    · exact absurd (String.le_antisymm (String.not_lt.1 behind) (String.not_lt.1 before)) h.1

/-! ## Lists of entries -/

theorem foldl_insert_of_sorted (h : Sorted (entries ++ pairs)) :
    pairs.foldl (fun entries pair => insert pair.1 pair.2 entries) entries = entries ++ pairs := by
  induction pairs generalizing entries with
  | nil => rw [List.foldl_nil, List.append_nil]
  | cons pair rest ih =>
    have before : ∀ entry ∈ entries, entry.1 < pair.1 := fun entry mem =>
      (List.pairwise_append.1 h).2.2 entry mem pair List.mem_cons_self
    rw [List.append_cons] at h ⊢
    rw [List.foldl_cons, insert_of_forall_lt before, ih h]

/-- Entries that are in order already stay as they are. -/
theorem ofList_of_sorted (h : Sorted pairs) : ofList pairs = pairs :=
  foldl_insert_of_sorted (show Sorted ([] ++ pairs) from h)

theorem foldl_insert_perm (h : (keys (pairs ++ entries)).Nodup) :
    (pairs.foldl (fun entries pair => insert pair.1 pair.2 entries) entries).Perm
      (pairs ++ entries) := by
  induction pairs generalizing entries with
  | nil => exact .refl _
  | cons pair rest ih =>
    have moved : (pair :: rest ++ entries).Perm (rest ++ pair :: entries) :=
      List.perm_middle.symm
    rw [keys, (moved.map Prod.fst).nodup_iff] at h
    have added : (insert pair.1 pair.2 entries).Perm (pair :: entries) := by
      refine insert_perm fun mem => ?_
      rw [List.map_append, List.nodup_append, List.map_cons, List.nodup_cons] at h
      exact h.2.1.1 mem
    have all := added.append_left rest
    rw [List.foldl_cons]
    refine (ih ?_).trans (all.trans moved.symm)
    rwa [keys, (all.map Prod.fst).nodup_iff]

/-- Entries with distinct keys are all kept. -/
theorem ofList_perm (h : (keys pairs).Nodup) : (ofList pairs).Perm pairs := by
  rw [← List.append_nil pairs] at h
  exact (foldl_insert_perm h).trans (.of_eq (List.append_nil pairs))

/-- Entries with distinct keys may come in any order. -/
theorem ofList_of_perm (perm : pairs.Perm entries) (h : Sorted entries) :
    ofList pairs = entries := by
  have distinct : (keys pairs).Nodup := by
    rw [keys, (perm.map Prod.fst).nodup_iff]
    exact h.keys_nodup
  have same := (ofList_perm distinct).trans perm
  exact same.eq_of_pairwise (fun a b _ _ less more => absurd less (String.lt_asymm more))
    (sorted_ofList pairs) h

theorem mem_foldl_insert {entry : String × α}
    (mem : entry ∈ pairs.foldl (fun entries pair => insert pair.1 pair.2 entries) entries) :
    entry ∈ pairs ∨ entry ∈ entries := by
  induction pairs generalizing entries with
  | nil => exact .inr mem
  | cons pair rest ih =>
    rcases ih mem with mem | mem
    · exact .inl (List.mem_cons_of_mem _ mem)
    · rcases mem_insert mem with rfl | mem
      · exact .inl List.mem_cons_self
      · exact .inr mem

/-- Sorting makes up no entries. -/
theorem mem_of_mem_ofList {entry : String × α} (mem : entry ∈ ofList pairs) : entry ∈ pairs :=
  (mem_foldl_insert mem).resolve_right List.not_mem_nil

theorem get?_foldl_insert_of_not_mem (h : key ∉ keys pairs) :
    get? key (pairs.foldl (fun entries pair => insert pair.1 pair.2 entries) entries) =
      get? key entries := by
  induction pairs generalizing entries with
  | nil => rfl
  | cons pair rest ih =>
    rw [keys, List.map_cons, List.mem_cons, not_or] at h
    rw [List.foldl_cons, ih h.2, get?_insert, if_neg (Ne.symm h.1)]

theorem get?_foldl_insert (once : (keys pairs).count key ≤ 1) :
    get? key (pairs.foldl (fun entries pair => insert pair.1 pair.2 entries) entries) =
      (get? key pairs).or (get? key entries) := by
  induction pairs generalizing entries with
  | nil => rfl
  | cons pair rest ih =>
    obtain ⟨k, v⟩ := pair
    rw [List.foldl_cons, get?]
    split_ifs with same
    · subst same
      rw [get?_foldl_insert_of_not_mem (not_mem_of_count_cons once), get?_insert, if_pos rfl,
        Option.some_or]
    · rw [ih (count_keys_of_cons once), get?_insert, if_neg same]

/-- An entry whose key comes once is found under its key. -/
theorem get?_ofList (once : (keys pairs).count key ≤ 1) :
    get? key (ofList pairs) = get? key pairs :=
  (get?_foldl_insert once).trans (Option.or_none ..)

theorem mem_of_get? (h : get? key entries = some value) : (key, value) ∈ entries := by
  induction entries with
  | nil => cases h
  | cons entry rest ih =>
    rw [get?] at h
    split_ifs at h with same
    · cases h
      exact same ▸ List.mem_cons_self
    · exact List.mem_cons_of_mem _ (ih h)

/-- An entry whose key comes once is what is found under it. -/
theorem get?_of_mem (once : (keys entries).count key ≤ 1) (mem : (key, value) ∈ entries) :
    get? key entries = some value := by
  induction entries with
  | nil => cases mem
  | cons entry rest ih =>
    obtain ⟨k, v⟩ := entry
    rw [get?]
    rcases List.mem_cons.1 mem with same | mem
    · cases same
      rw [if_pos rfl]
    · split_ifs with same
      · subst same
        exact absurd (List.mem_map.2 ⟨_, mem, rfl⟩) (not_mem_of_count_cons once)
      · exact ih (count_keys_of_cons once) mem

/-! ## Images of values -/

variable {β : Type _} {f : α → β}

theorem insert_map :
    insert key (f value) (entries.map fun entry => (entry.1, f entry.2)) =
      (insert key value entries).map fun entry => (entry.1, f entry.2) := by
  induction entries with
  | nil => rfl
  | cons entry rest ih =>
    rw [List.map_cons, insert, insert, ih]
    split_ifs <;> rfl

/-- Putting entries in order and changing their values. -/
theorem ofList_map :
    ofList (pairs.map fun pair => (pair.1, f pair.2)) =
      (ofList pairs).map fun pair => (pair.1, f pair.2) := by
  have all : ∀ entries : List (String × α),
      (pairs.map fun pair => (pair.1, f pair.2)).foldl
          (fun entries pair => insert pair.1 pair.2 entries)
          (entries.map fun entry => (entry.1, f entry.2)) =
        (pairs.foldl (fun entries pair => insert pair.1 pair.2 entries) entries).map
          fun entry => (entry.1, f entry.2) := by
    induction pairs with
    | nil => exact fun entries => rfl
    | cons pair rest ih =>
      intro entries
      rw [List.map_cons, List.foldl_cons, List.foldl_cons, ← ih, ← insert_map]
  exact all []

theorem get?_map :
    get? key (entries.map fun entry => (entry.1, f entry.2)) = (get? key entries).map f := by
  induction entries with
  | nil => rfl
  | cons entry rest ih =>
    rw [List.map_cons, get?, get?, ih]
    split_ifs <;> rfl

end HomeBus.Entries
