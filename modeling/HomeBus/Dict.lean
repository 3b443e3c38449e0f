/-!
# Dictionaries with text keys

A dictionary is a list of entries in strictly increasing order of their keys, which is the order of
the keys' code points and of their UTF-8 bytes. Two dictionaries with the same entries are equal.

* `Entries.insert` keeps a list sorted (`Entries.sorted_insert`); a later entry replaces an earlier
  one with its key.
* `Dict` carries the order in its type.
-/

namespace HomeBus

namespace Entries

variable {α : Type _}

/-- Strictly increasing keys. -/
def Sorted (entries : List (String × α)) : Prop := entries.Pairwise fun a b => a.1 < b.1

/-- Puts an entry at its place, over the entry that has its key. -/
def insert (key : String) (value : α) : List (String × α) → List (String × α)
  | [] => [(key, value)]
  | (k, v) :: rest =>
    if key < k then (key, value) :: (k, v) :: rest
    else if k < key then (k, v) :: insert key value rest
    else (key, value) :: rest

/-- The value at a key. -/
def get? (key : String) : List (String × α) → Option α
  | [] => none
  | (k, v) :: rest => if k = key then some v else get? key rest

/-- The entries of a list of pairs, sorted; of pairs with one key the last one counts. -/
def ofList (pairs : List (String × α)) : List (String × α) :=
  pairs.foldl (fun entries pair => insert pair.1 pair.2 entries) []

theorem mem_insert {key : String} {value : α} {entry : String × α} :
    ∀ {entries : List (String × α)}, entry ∈ insert key value entries →
      entry = (key, value) ∨ entry ∈ entries
  | [], h => by simpa [insert] using h
  | (k, v) :: rest, h => by
    unfold insert at h
    split at h
    · simpa using h
    · split at h
      · rcases List.mem_cons.1 h with h | h
        · exact .inr (h ▸ List.mem_cons_self)
        · exact (mem_insert h).imp_right (List.mem_cons_of_mem _)
      · rcases List.mem_cons.1 h with h | h
        · exact .inl h
        · exact .inr (List.mem_cons_of_mem _ h)

theorem sorted_insert (key : String) (value : α) :
    ∀ {entries : List (String × α)}, Sorted entries → Sorted (insert key value entries)
  | [], _ => by simp [Sorted, insert]
  | (k, v) :: rest, h => by
    have ⟨head, tail⟩ := List.pairwise_cons.1 h
    unfold insert
    split
    · next lt =>
      refine List.pairwise_cons.2 ⟨fun e he => ?_, h⟩
      rcases List.mem_cons.1 he with rfl | he
      · exact lt
      · exact String.lt_trans lt (head e he)
    · next notLt =>
      split
      · next gt =>
        refine List.pairwise_cons.2 ⟨fun e he => ?_, sorted_insert key value tail⟩
        rcases mem_insert he with rfl | he
        · exact gt
        · exact head e he
      · next notGt =>
        have same : key = k := String.le_antisymm (String.not_lt.1 notGt) (String.not_lt.1 notLt)
        subst same
        exact List.pairwise_cons.2 ⟨head, tail⟩

theorem get?_insert (key k : String) (value : α) (entries : List (String × α)) :
    get? k (insert key value entries) = if key = k then some value else get? k entries := by
  induction entries with
  | nil => simp [insert, get?]
  | cons entry rest ih =>
    obtain ⟨k', v⟩ := entry
    unfold insert
    split
    · simp only [get?]
    · next notLt =>
      split
      · next gt =>
        by_cases same : key = k
        · subst same
          simp [get?, ih, String.ne_of_lt gt]
        · simp only [get?, ih, if_neg same]
      · next notGt =>
        have same : key = k' := String.le_antisymm (String.not_lt.1 notGt) (String.not_lt.1 notLt)
        subst same
        simp only [get?]
        split <;> rfl

theorem sorted_foldl_insert {pairs entries : List (String × α)} (h : Sorted entries) :
    Sorted (pairs.foldl (fun entries pair => insert pair.1 pair.2 entries) entries) := by
  induction pairs generalizing entries with
  | nil => exact h
  | cons pair rest ih => exact ih (sorted_insert _ _ h)

theorem sorted_ofList (pairs : List (String × α)) : Sorted (ofList pairs) :=
  sorted_foldl_insert List.Pairwise.nil

end Entries

/-- A dictionary: entries in increasing order of their keys, each key once. -/
structure Dict (α : Type _) where
  entries : List (String × α)
  sorted : Entries.Sorted entries
  deriving DecidableEq

namespace Dict

variable {α : Type _}

def empty : Dict α := ⟨[], List.Pairwise.nil⟩

instance : Inhabited (Dict α) := ⟨empty⟩

/-- Sets the value at a key. -/
def insert (d : Dict α) (key : String) (value : α) : Dict α :=
  ⟨Entries.insert key value d.entries, Entries.sorted_insert key value d.sorted⟩

/-- The dictionary of a list of pairs; of pairs with one key the last one counts. -/
def ofList (pairs : List (String × α)) : Dict α := ⟨Entries.ofList pairs, Entries.sorted_ofList pairs⟩

/-- The entries in order of their keys. -/
def toList (d : Dict α) : List (String × α) := d.entries

end Dict

end HomeBus
