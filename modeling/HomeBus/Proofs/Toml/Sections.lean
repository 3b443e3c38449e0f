import HomeBus.Proofs.Dict
import HomeBus.Proofs.Outcome
import HomeBus.Toml.Decode
import Mathlib.Logic.Function.Defs

/-!
# What is read of a table with known keys

A section reads its entries in the order of the document. When each key comes once, the order does
not matter, and neither do unknown keys: every known key that is there sets its own field, the
others keep their defaults, and reading fails only for an entry whose value does not fit its key.

Results:
* `Fields.forall_sets_cons_iff`: what one entry more sets.
* `Fields.foldlM_eq_ok_iff`: what a run over some entries makes of a state.
* `Fields.readTable_eq_ok_iff`: what a section reads, field by field.
-/

namespace HomeBus.Toml

/-- The fields of a section: each is set by a key of its own, and by no other. -/
structure Fields {σ : Type} (s : Section σ) (ι : Type) where
  /-- The fields in the order of their keys. -/
  order : List ι
  name : ι → String
  Value : ι → Type
  decoder (i : ι) : Decoder (Value i)
  put (i : ι) : σ → Value i → σ
  look (i : ι) : σ → Value i
  name_injective : Function.Injective name
  find?_name (i : ι) :
    s.keys.find? (fun key => key.name == name i) = some (.to (name i) (decoder i) (put i))
  names : s.keys.map Key.name = order.map name
  look_put (i : ι) (state : σ) (a : Value i) : look i (put i state a) = a
  look_put_of_ne {i j : ι} (ne : j ≠ i) (state : σ) (a : Value i) :
    look j (put i state a) = look j state
  ext {a b : σ} (same : ∀ i, look i a = look i b) : a = b

namespace Fields

variable {σ ι : Type} {s : Section σ} (fields : Fields s ι) {state final : σ} {i : ι}
  {entries : List (String × Toml)}

/-- What the value at the key of a field, if it is there, makes of the field. -/
def Sets (i : ι) (state final : σ) : Option Toml → Prop
  | some v => fields.decoder i v = .ok (fields.look i final)
  | none => fields.look i final = fields.look i state

theorem readEntry_name (i : ι) (state : σ) (v : Toml) :
    s.readEntry state (fields.name i, v) = (fields.decoder i v).map (fields.put i state) := by
  rw [Section.readEntry, fields.find?_name]
  rfl

/-- An entry with an unknown key is passed over. -/
theorem readEntry_of_unknown {key : String} (unknown : ∀ i, fields.name i ≠ key) (state : σ)
    (v : Toml) : s.readEntry state (key, v) = .ok state := by
  have none_ : s.keys.find? (fun known => known.name == key) = none := by
    rw [List.find?_eq_none]
    intro known mem same
    have named : known.name ∈ fields.order.map fields.name :=
      fields.names ▸ List.mem_map_of_mem mem
    obtain ⟨i, -, named⟩ := List.mem_map.1 named
    exact unknown i (named.trans (eq_of_beq same))
  rw [Section.readEntry, none_]

/-- An entry with a known key, which does not come again, sets its field before the rest is read. -/
theorem forall_sets_cons_iff {v : Toml} (new : fields.name i ∉ Entries.keys entries) :
    (∀ j, fields.Sets j state final
        (Entries.get? (fields.name j) ((fields.name i, v) :: entries))) ↔
      ∃ a, fields.decoder i v = .ok a ∧ ∀ j, fields.Sets j (fields.put i state a) final
        (Entries.get? (fields.name j) entries) := by
  have here : Entries.get? (fields.name i) ((fields.name i, v) :: entries) = some v := if_pos rfl
  have later : Entries.get? (fields.name i) entries = none := Entries.get?_of_not_mem new
  have others {j : ι} (ne : j ≠ i) : Entries.get? (fields.name j) ((fields.name i, v) :: entries) =
      Entries.get? (fields.name j) entries :=
    if_neg fun same => ne (fields.name_injective same).symm
  have elsewhere {j : ι} (ne : j ≠ i) (a : fields.Value i) (said : Option Toml) :
      fields.Sets j state final said ↔ fields.Sets j (fields.put i state a) final said := by
    cases said with
    | some w => exact Iff.rfl
    | none => rw [Sets, Sets, fields.look_put_of_ne ne]
  constructor
  · intro all
    have decoded := all i
    rw [here] at decoded
    refine ⟨_, decoded, fun j => ?_⟩
    by_cases same : j = i
    · subst same
      rw [later]
      exact (fields.look_put ..).symm
    · rw [← elsewhere same, ← others same]
      exact all j
  · rintro ⟨a, decoded, all⟩ j
    by_cases same : j = i
    · subst same
      have kept := all j
      rw [later, Sets, fields.look_put] at kept
      rw [here, Sets, decoded, kept]
    · rw [others same, elsewhere same a]
      exact all j

/-- What a run over entries with distinct keys makes of a state, field by field. -/
theorem foldlM_eq_ok_iff (distinct : (Entries.keys entries).Nodup) :
    entries.foldlM s.readEntry state = .ok final ↔
      ∀ i, fields.Sets i state final (Entries.get? (fields.name i) entries) := by
  induction entries generalizing state with
  | nil =>
    change Except.ok state = .ok final ↔ ∀ i, fields.look i final = fields.look i state
    rw [Except.ok.injEq]
    constructor
    · rintro rfl i
      rfl
    · intro same
      exact fields.ext fun i => (same i).symm
  | cons entry rest ih =>
    obtain ⟨key, v⟩ := entry
    rw [Entries.keys, List.map_cons, List.nodup_cons] at distinct
    obtain ⟨new, distinct⟩ := distinct
    rw [List.foldlM_cons]
    by_cases known : ∃ i, fields.name i = key
    · obtain ⟨i, rfl⟩ := known
      rw [fields.forall_sets_cons_iff new, fields.readEntry_name]
      cases decoded : fields.decoder i v with
      | error e =>
        constructor
        · rintro ⟨⟩
        · rintro ⟨_, ⟨⟩, _⟩
      | ok a =>
        refine (ih distinct).trans ⟨fun all => ⟨a, rfl, all⟩, ?_⟩
        rintro ⟨_, ⟨⟩, all⟩
        exact all
    · rw [not_exists] at known
      rw [fields.readEntry_of_unknown known, Outcome.ok_bind, ih distinct]
      have same (i : ι) : Entries.get? (fields.name i) ((key, v) :: rest) =
          Entries.get? (fields.name i) rest := if_neg (Ne.symm (known i))
      simp only [same]

/-- What a section reads of a table: every field is set by its own key, or keeps its default. -/
theorem readTable_eq_ok_iff (distinct : (Entries.keys entries).Nodup) :
    s.readTable entries = .ok final ↔
      ∀ i, fields.Sets i s.defaults final (Entries.get? (fields.name i) entries) :=
  fields.foldlM_eq_ok_iff distinct

end Fields

end HomeBus.Toml
