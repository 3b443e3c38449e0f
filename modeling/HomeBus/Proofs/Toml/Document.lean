import HomeBus.Proofs.Dict
import HomeBus.Toml.Document

/-!
# What every TOML document guarantees

The tables of a document have each key once, however it is spread over headers, dotted keys and
tables on one line, and its integers fit in 64 bits. The tables grow entry by entry while a document
is read, so the invariant is kept by each way to change one.

Results:
* `sound_value`: a value that was read is sound.
* `Change.keeps_at`: a change that keeps a table tidy keeps the tables around it tidy.
* `Builder.sound_step`, `Builder.sound_foldlM`: so do a statement and a list of statements.
* `sound_parse`: the table of a document is sound.
-/

namespace HomeBus.Toml

open Entries (keys)

/-! ## Sound values -/

/-- Integers fit in 64 bits with sign, and every table has each of its keys once. -/
inductive Sound : Toml → Prop
  | text (value : String) : Sound (.text value)
  | int {value : Int} (low : -0x8000_0000_0000_0000 ≤ value)
      (high : value < 0x8000_0000_0000_0000) : Sound (.int value)
  | double (value : Binary64) : Sound (.double value)
  | bool (value : Bool) : Sound (.bool value)
  | moment : Sound .moment
  | array {items : List Toml} (each : ∀ item ∈ items, Sound item) : Sound (.array items)
  | tables {items : List Toml} (each : ∀ item ∈ items, Sound item) : Sound (.tables items)
  | table {entries : List (String × Toml)} (distinct : (keys entries).Nodup)
      (each : ∀ entry ∈ entries, Sound entry.2) : Sound (.table entries)

/-- Each key comes once, and `P` holds of all values. -/
structure Tidy {α : Type} (P : α → Prop) (entries : List (String × α)) : Prop where
  distinct : (keys entries).Nodup
  each : ∀ entry ∈ entries, P entry.2

theorem sound_table_iff {entries : List (String × Toml)} :
    Sound (.table entries) ↔ Tidy Sound entries := by
  constructor
  · rintro (_ | _ | _ | _ | _ | _ | _ | ⟨distinct, each⟩)
    exact ⟨distinct, each⟩
  · rintro ⟨distinct, each⟩
    exact .table distinct each

section

variable {α : Type} {P : α → Prop} {key : String} {value : α} {entries : List (String × α)}

theorem tidy_nil : Tidy P [] := ⟨List.nodup_nil, nofun⟩

theorem Tidy.of_get? (tidy : Tidy P entries) (found : Entries.get? key entries = some value) :
    P value :=
  tidy.each _ (Entries.mem_of_get? found)

theorem not_mem_keys_of_get? (free : Entries.get? key entries = none) : key ∉ keys entries := by
  induction entries with
  | nil => exact List.not_mem_nil
  | cons entry rest ih =>
    rw [Entries.get?] at free
    split_ifs at free with same
    rw [keys, List.map_cons, List.mem_cons, not_or]
    exact ⟨Ne.symm same, ih free⟩

/-- An entry whose key is free may be added. -/
theorem Tidy.append (tidy : Tidy P entries) (free : Entries.get? key entries = none)
    (holds : P value) : Tidy P (entries ++ [(key, value)]) := by
  have new := not_mem_keys_of_get? free
  constructor
  · rw [keys, List.map_append, List.nodup_append]
    refine ⟨tidy.distinct, List.nodup_singleton _, ?_⟩
    intro k mem last inside same
    rw [List.map_singleton, List.mem_singleton] at inside
    rw [same, inside] at mem
    exact new mem
  · intro entry mem
    rcases List.mem_append.1 mem with mem | mem
    · exact tidy.each entry mem
    · rw [List.mem_singleton.1 mem]
      exact holds

theorem mem_setCell {entry : String × α} (mem : entry ∈ setCell key value entries) :
    entry = (key, value) ∨ entry ∈ entries := by
  induction entries with
  | nil => exact .inl (List.mem_singleton.1 mem)
  | cons head rest ih =>
    rw [setCell] at mem
    split_ifs at mem with same
    · exact (List.mem_cons.1 mem).imp_right (List.mem_cons_of_mem _)
    · rcases List.mem_cons.1 mem with rfl | mem
      · exact .inr List.mem_cons_self
      · exact (ih mem).imp_right (List.mem_cons_of_mem _)

/-- The value at a key may be replaced. -/
theorem Tidy.setCell (tidy : Tidy P entries) (holds : P value) :
    Tidy P (setCell key value entries) := by
  constructor
  · have distinct := tidy.distinct
    clear tidy
    induction entries with
    | nil => exact List.nodup_singleton _
    | cons head rest ih =>
      rw [keys, List.map_cons, List.nodup_cons] at distinct
      obtain ⟨new, distinct⟩ := distinct
      rw [Toml.setCell]
      split_ifs with same
      · rw [keys, List.map_cons, List.nodup_cons]
        exact ⟨same ▸ new, distinct⟩
      · rw [keys, List.map_cons, List.nodup_cons]
        refine ⟨fun mem => ?_, ih distinct⟩
        obtain ⟨entry, inside, here⟩ := List.mem_map.1 mem
        rcases mem_setCell inside with rfl | inside
        · exact same here.symm
        · exact new (here ▸ List.mem_map_of_mem inside)
  · intro entry mem
    rcases mem_setCell mem with rfl | mem
    · exact holds
    · exact tidy.each entry mem

/-- Entries may be taken away. -/
theorem Tidy.filter (tidy : Tidy P entries) (p : String × α → Bool) :
    Tidy P (entries.filter p) := by
  refine ⟨(List.filter_sublist.map Prod.fst).nodup tidy.distinct, fun entry mem => ?_⟩
  exact tidy.each entry (List.mem_of_mem_filter mem)

theorem Tidy.map {β : Type} {Q : β → Prop} {f : α → β} (tidy : Tidy P entries)
    (h : ∀ entry ∈ entries, Q (f entry.2)) :
    Tidy Q (entries.map fun entry => (entry.1, f entry.2)) := by
  constructor
  · rw [keys, List.map_map]
    exact tidy.distinct
  · exact List.forall_mem_map.2 h

end

/-- What every step keeps holds at the end of a fold that does not fail. -/
theorem foldlM_keeps {α β : Type} {step : β → α → Option β} {P : β → Prop} {list : List α}
    (keeps : ∀ a ∈ list, ∀ state next, P state → step state a = some next → P next)
    {state final : β} (holds : P state) (done : list.foldlM step state = some final) : P final := by
  induction list generalizing state with
  | nil =>
    cases done
    exact holds
  | cons a rest ih =>
    rw [List.foldlM_cons] at done
    obtain ⟨next, here, done⟩ := Option.bind_eq_some_iff.1 done
    have now := keeps a List.mem_cons_self state next holds here
    exact ih (fun b mem => keeps b (List.mem_cons_of_mem _ mem)) now done

/-! ## Tables on one line -/

/-- The values and keys of a table that is being collected are sound. -/
inductive Cell.Sound : Cell → Prop
  | value {v : Toml} (sound : v.Sound) : Sound (.value v)
  | dotted {cells : List (String × Cell)} (distinct : (keys cells).Nodup)
      (each : ∀ cell ∈ cells, Sound cell.2) : Sound (.dotted cells)

theorem Cell.sound_dotted_iff {cells : List (String × Cell)} :
    Cell.Sound (.dotted cells) ↔ Tidy Cell.Sound cells := by
  constructor
  · rintro (_ | ⟨distinct, each⟩)
    exact ⟨distinct, each⟩
  · rintro ⟨distinct, each⟩
    exact .dotted distinct each

theorem cellsToEntries_eq_map (cells : List (String × Cell)) :
    cellsToEntries cells = cells.map fun cell => (cell.1, cell.2.toToml) := by
  induction cells with
  | nil => rfl
  | cons cell rest ih => rw [cellsToEntries, ih, List.map_cons]

theorem Cell.Sound.toToml {cell : Cell} (sound : cell.Sound) : cell.toToml.Sound := by
  induction sound with
  | value sound => exact sound
  | dotted distinct each ih =>
    rw [Cell.toToml, cellsToEntries_eq_map, sound_table_iff]
    exact (Tidy.mk distinct each).map ih

theorem tidy_addCell {path : List String} {v : Toml} {cells next : List (String × Cell)}
    (sound : v.Sound) (tidy : Tidy Cell.Sound cells) (added : addCell path v cells = some next) :
    Tidy Cell.Sound next := by
  induction path generalizing cells next with
  | nil => cases added
  | cons key path ih =>
    cases path with
    | nil =>
      rw [addCell] at added
      cases found : Entries.get? key cells with
      | none =>
        rw [found] at added
        cases added
        exact tidy.append found (.value sound)
      | some cell =>
        rw [found] at added
        cases added
    | cons next_ path =>
      rw [addCell] at added
      · cases found : Entries.get? key cells with
        | none =>
          rw [found] at added
          obtain ⟨inner, here, rfl⟩ := Option.map_eq_some_iff.1 added
          exact tidy.append found (Cell.sound_dotted_iff.2 (ih tidy_nil here))
        | some cell =>
          rw [found] at added
          cases cell with
          | value v => cases added
          | dotted inner =>
            obtain ⟨inner', here, rfl⟩ := Option.map_eq_some_iff.1 added
            have inside := Cell.sound_dotted_iff.1 (tidy.of_get? found)
            exact tidy.setCell (Cell.sound_dotted_iff.2 (ih inside here))
      · exact nofun

theorem sound_inlineTable {assignments : List (List String × Toml)} {v : Toml}
    (sound : ∀ assignment ∈ assignments, assignment.2.Sound)
    (built : inlineTable assignments = some v) : v.Sound := by
  obtain ⟨cells, collected, ⟨⟩⟩ := Option.bind_eq_some_iff.1 built
  have tidy : Tidy Cell.Sound cells :=
    foldlM_keeps (fun a mem _ _ tidy added => tidy_addCell (sound a mem) tidy added) tidy_nil
      collected
  exact (Cell.sound_dotted_iff.2 tidy).toToml

/-! ## Values -/

open Scan

section

variable {read : Scanner Toml} {rounds : ℕ} {cs rest : List Char} {v : Toml}

theorem sound_arrayItems {items : List Toml}
    (sound : ∀ cs v rest, read cs = some (v, rest) → v.Sound)
    (found : arrayItems read rounds cs = some (items, rest)) : ∀ item ∈ items, item.Sound := by
  induction rounds generalizing cs items with
  | zero => cases found
  | succ rounds ih =>
    obtain ⟨start, -, found⟩ := Option.bind_eq_some_iff.1 found
    split at found
    · cases found
      exact nofun
    · obtain ⟨⟨head, left⟩, here, found⟩ := Option.bind_eq_some_iff.1 found
      obtain ⟨mark, -, found⟩ := Option.bind_eq_some_iff.1 found
      have first := sound _ head left here
      split at found
      · obtain ⟨⟨tail, end_⟩, others, ⟨⟩⟩ := Option.bind_eq_some_iff.1 found
        exact List.forall_mem_cons.2 ⟨first, ih others⟩
      · cases found
        exact List.forall_mem_singleton.2 first
      · cases found

theorem sound_assignment {path : List String}
    (sound : ∀ cs v rest, read cs = some (v, rest) → v.Sound)
    (found : assignment read cs = some ((path, v), rest)) : v.Sound := by
  obtain ⟨⟨parts, left⟩, -, found⟩ := Option.bind_eq_some_iff.1 found
  obtain ⟨start, -, found⟩ := Option.bind_eq_some_iff.1 found
  obtain ⟨⟨v', left'⟩, here, ⟨⟩⟩ := Option.bind_eq_some_iff.1 found
  exact sound _ v _ here

theorem sound_inlineAssignments {assignments : List (List String × Toml)}
    (sound : ∀ cs v rest, read cs = some (v, rest) → v.Sound)
    (found : inlineAssignments read rounds cs = some (assignments, rest)) :
    ∀ assignment ∈ assignments, assignment.2.Sound := by
  induction rounds generalizing cs assignments with
  | zero => cases found
  | succ rounds ih =>
    obtain ⟨⟨head, left⟩, here, found⟩ := Option.bind_eq_some_iff.1 found
    have first : head.2.Sound := sound_assignment sound here
    simp only at found
    split at found
    · obtain ⟨⟨tail, end_⟩, others, ⟨⟩⟩ := Option.bind_eq_some_iff.1 found
      exact List.forall_mem_cons.2 ⟨first, ih others⟩
    · cases found
      exact List.forall_mem_singleton.2 first
    · cases found

theorem bounded_eq_some_iff {value found : Int} :
    bounded value = some found ↔ value = found ∧ -0x8000_0000_0000_0000 ≤ found ∧
      found < 0x8000_0000_0000_0000 := by
  unfold bounded
  split_ifs with range
  · rw [Option.some.injEq]
    constructor
    · rintro rfl
      exact ⟨rfl, range⟩
    · exact And.left
  · refine iff_of_false nofun ?_
    rintro ⟨rfl, bounds⟩
    exact range bounds

theorem sound_integer {value : Int} (found : integer cs = some (value, rest)) :
    (Toml.int value).Sound := by
  have based {base : ℕ} {digit? : Char → Option ℕ} {cs : List Char}
      (found : integer.based base digit? cs = some (value, rest)) : (Toml.int value).Sound := by
    obtain ⟨⟨ds, left⟩, -, found⟩ := Option.bind_eq_some_iff.1 found
    obtain ⟨value', fits, ⟨⟩⟩ := Option.bind_eq_some_iff.1 found
    have range := (bounded_eq_some_iff.1 fits).2
    exact .int range.1 range.2
  unfold integer at found
  split at found
  · exact based found
  · exact based found
  · exact based found
  · obtain ⟨⟨ds, left⟩, -, found⟩ := Option.bind_eq_some_iff.1 found
    obtain ⟨value', fits, ⟨⟩⟩ := Option.bind_eq_some_iff.1 found
    have range := (bounded_eq_some_iff.1 fits).2
    exact .int range.1 range.2

theorem sound_numberOrMoment (found : numberOrMoment cs = some (v, rest)) : v.Sound := by
  unfold numberOrMoment at found
  split at found
  · cases found
    exact .moment
  · split at found
    · cases found
      exact .double _
    · obtain ⟨⟨value, left⟩, here, ⟨⟩⟩ := Option.map_eq_some_iff.1 found
      exact sound_integer here

/-- A value that was read is sound. -/
theorem sound_value {room : ℕ} (found : value room cs = some (v, rest)) : v.Sound := by
  induction room using Nat.strongRecOn generalizing cs v rest with
  | _ room ih =>
    unfold value at found
    split at found
    · cases found
    · next c tail =>
      split_ifs at found
      · obtain ⟨⟨s, left⟩, -, ⟨⟩⟩ := Option.map_eq_some_iff.1 found
        exact .text s
      · cases room with
        | zero => cases found
        | succ room =>
          obtain ⟨⟨items, left⟩, read, ⟨⟩⟩ := Option.map_eq_some_iff.1 found
          have inner (cs v rest) (h : value room cs = some (v, rest)) : v.Sound :=
            ih room (Nat.lt_succ_self _) h
          exact .array (sound_arrayItems inner read)
      · cases room with
        | zero => cases found
        | succ room =>
          have inner (cs v rest) (h : value room cs = some (v, rest)) : v.Sound :=
            ih room (Nat.lt_succ_self _) h
          simp only at found
          split at found
          · cases found
            exact sound_table_iff.2 tidy_nil
          · obtain ⟨⟨assignments, left⟩, read, found⟩ := Option.bind_eq_some_iff.1 found
            obtain ⟨table, built, ⟨⟩⟩ := Option.bind_eq_some_iff.1 found
            exact sound_inlineTable (sound_inlineAssignments inner read) built
      · split at found
        · cases found
          exact .bool true
        · cases found
      · split at found
        · cases found
          exact .bool false
        · cases found
      · exact sound_numberOrMoment found

/-! ## Statements -/

/-- The value that a statement assigns is sound. -/
def Statement.Sound : Statement → Prop
  | .assign _ v => v.Sound
  | _ => True

theorem sound_statement {s : Statement} (found : statement cs = some (s, rest)) : s.Sound := by
  unfold statement at found
  split at found
  · obtain ⟨⟨path, left⟩, -, found⟩ := Option.bind_eq_some_iff.1 found
    simp only at found
    split at found
    · cases found
      trivial
    · cases found
  · obtain ⟨⟨path, left⟩, -, found⟩ := Option.bind_eq_some_iff.1 found
    obtain ⟨end_, -, ⟨⟩⟩ := Option.bind_eq_some_iff.1 found
    trivial
  · obtain ⟨⟨⟨path, v⟩, left⟩, read, ⟨⟩⟩ := Option.bind_eq_some_iff.1 found
    exact sound_assignment (fun _ _ _ => sound_value) read

theorem sound_lines {list : List Statement} (found : lines rounds cs = some list) :
    ∀ s ∈ list, s.Sound := by
  induction rounds generalizing cs list with
  | zero => cases found
  | succ rounds ih =>
    unfold lines at found
    split at found
    · cases found
      exact nofun
    · split at found
      · exact ih found
      · obtain ⟨⟨head, left⟩, here, found⟩ := Option.bind_eq_some_iff.1 found
        obtain ⟨next, -, found⟩ := Option.bind_eq_some_iff.1 found
        obtain ⟨tail, others, ⟨⟩⟩ := Option.bind_eq_some_iff.1 found
        exact List.forall_mem_cons.2 ⟨sound_statement here, ih others⟩

end

/-! ## Tables of a document -/

/-- The values and keys of a part of a document are sound. -/
inductive Node.Sound : Node → Prop
  | value {v : Toml} (sound : v.Sound) : Sound (.value v)
  | table {origin : Origin} {entries : List (String × Node)} (distinct : (keys entries).Nodup)
      (each : ∀ entry ∈ entries, Sound entry.2) : Sound (.table origin entries)
  | tables {items : List (List (String × Node))} (distinct : ∀ item ∈ items, (keys item).Nodup)
      (each : ∀ item ∈ items, ∀ entry ∈ item, Sound entry.2) : Sound (.tables items)

theorem Node.sound_table_iff {origin : Origin} {entries : List (String × Node)} :
    Node.Sound (.table origin entries) ↔ Tidy Node.Sound entries := by
  constructor
  · rintro (_ | ⟨distinct, each⟩ | _)
    exact ⟨distinct, each⟩
  · rintro ⟨distinct, each⟩
    exact .table distinct each

theorem Node.sound_tables_iff {items : List (List (String × Node))} :
    Node.Sound (.tables items) ↔ ∀ item ∈ items, Tidy Node.Sound item := by
  constructor
  · rintro (_ | _ | ⟨distinct, each⟩) item mem
    exact ⟨distinct item mem, each item mem⟩
  · intro tidy
    exact .tables (fun item mem => (tidy item mem).distinct) fun item mem => (tidy item mem).each

theorem nodesToEntries_eq_map (entries : List (String × Node)) :
    nodesToEntries entries = entries.map fun entry => (entry.1, entry.2.toToml) := by
  induction entries with
  | nil => rfl
  | cons entry rest ih => rw [nodesToEntries, ih, List.map_cons]

theorem nodesToItems_eq_map (items : List (List (String × Node))) :
    nodesToItems items = items.map fun item => .table (nodesToEntries item) := by
  induction items with
  | nil => rfl
  | cons item rest ih => rw [nodesToItems, ih, List.map_cons]

theorem Node.Sound.toToml {node : Node} (sound : node.Sound) : node.toToml.Sound := by
  induction sound with
  | value sound => exact sound
  | table distinct each ih =>
    rw [Node.toToml, nodesToEntries_eq_map, Toml.sound_table_iff]
    exact (Tidy.mk distinct each).map ih
  | tables distinct each ih =>
    rw [Node.toToml, nodesToItems_eq_map]
    refine .tables (List.forall_mem_map.2 fun item mem => ?_)
    rw [nodesToEntries_eq_map, Toml.sound_table_iff]
    exact (Tidy.mk (distinct item mem) (each item mem)).map (ih item mem)

/-- A change turns tidy tables into tidy ones. -/
def Change.Keeps (change : Change) : Prop :=
  ∀ origin entries next, Tidy Node.Sound entries → change origin entries = some next →
    Tidy Node.Sound next

section

variable {change : Change} {key : String} {path : List String}
  {entries table : List (String × Node)}

/-- A change that keeps a table tidy keeps the tables around it tidy. -/
theorem Change.keeps_at (keeps : change.Keeps) (dotted : Bool) (path : List String) :
    (change.at dotted path).Keeps := by
  induction path with
  | nil => exact keeps
  | cons key path ih =>
    intro origin entries next tidy changed
    rw [Change.at] at changed
    cases found : Entries.get? key entries with
    | none =>
      rw [found] at changed
      obtain ⟨inner, here, ⟨⟩⟩ := Option.bind_eq_some_iff.1 changed
      exact tidy.append found (Node.sound_table_iff.2 (ih _ _ _ tidy_nil here))
    | some node =>
      rw [found] at changed
      have sound := tidy.of_get? found
      cases node with
      | value v => cases changed
      | table origin' inner =>
        simp only at changed
        split_ifs at changed
        obtain ⟨inner', here, ⟨⟩⟩ := Option.bind_eq_some_iff.1 changed
        have inside := Node.sound_table_iff.1 sound
        exact tidy.setCell (Node.sound_table_iff.2 (ih _ _ _ inside here))
      | tables items =>
        obtain ⟨last, ending, changed⟩ := Option.bind_eq_some_iff.1 changed
        obtain ⟨inner, here, ⟨⟩⟩ := Option.bind_eq_some_iff.1 changed
        have all := Node.sound_tables_iff.1 sound
        have inside := ih _ _ _ (all last (List.mem_of_getLast? ending)) here
        refine tidy.setCell (Node.sound_tables_iff.2 ?_)
        rw [List.forall_mem_append, List.forall_mem_singleton]
        exact ⟨fun item mem => all item ((List.dropLast_sublist items).subset mem), inside⟩

theorem keeps_assignChange {v : Toml} (sound : v.Sound) (dottedPath : Bool) :
    (assignChange key v dottedPath).Keeps := by
  intro origin entries next tidy changed
  unfold assignChange at changed
  split_ifs at changed
  split at changed
  · cases changed
  · next free =>
    cases changed
    exact tidy.append free (.value sound)

theorem keeps_pushChange (tidyTable : Tidy Node.Sound table) : (pushChange key table).Keeps := by
  intro origin entries next tidy changed
  unfold pushChange at changed
  split at changed
  · next free =>
    cases changed
    exact tidy.append free (Node.sound_tables_iff.2 (List.forall_mem_singleton.2 tidyTable))
  · next items found =>
    cases changed
    have all := Node.sound_tables_iff.1 (tidy.of_get? found)
    refine tidy.setCell (Node.sound_tables_iff.2 ?_)
    rw [List.forall_mem_append, List.forall_mem_singleton]
    exact ⟨all, tidyTable⟩
  · cases changed

theorem keeps_declareChange (tidyTable : Tidy Node.Sound table) :
    (declareChange key table).Keeps := by
  intro origin entries next tidy changed
  unfold declareChange at changed
  split at changed
  · next free =>
    cases changed
    exact tidy.append free (Node.sound_table_iff.2 tidyTable)
  · split_ifs at changed
    cases changed
    exact tidy.setCell (Node.sound_table_iff.2 tidyTable)
  · cases changed

theorem keeps_itemChange : (itemChange key).Keeps := by
  intro origin entries next tidy changed
  unfold itemChange at changed
  split at changed
  · next free =>
    cases changed
    exact tidy.append free (Node.sound_tables_iff.2 nofun)
  · cases changed
    exact tidy
  · cases changed

theorem keeps_removeChange : (removeChange key).Keeps := by
  intro origin entries next tidy changed
  unfold removeChange at changed
  split at changed
  · cases changed
    exact tidy
  · split_ifs at changed
    cases changed
    exact tidy.filter _
  · cases changed

theorem tidy_childEntries (tidy : Tidy Node.Sound entries) :
    Tidy Node.Sound (childEntries key entries) := by
  unfold childEntries
  split
  · next found => exact Node.sound_table_iff.1 (tidy.of_get? found)
  · exact tidy_nil

theorem tidy_entriesAt (tidy : Tidy Node.Sound entries) :
    Tidy Node.Sound (entriesAt path entries) := by
  induction path generalizing entries with
  | nil => exact tidy
  | cons key path ih =>
    rw [entriesAt]
    split
    · next found => exact ih (Node.sound_table_iff.1 (tidy.of_get? found))
    · next items found =>
      have all := Node.sound_tables_iff.1 (tidy.of_get? found)
      refine ih ?_
      cases ending : items.getLast? with
      | none => exact tidy_nil
      | some last => exact all last (List.mem_of_getLast? ending)
    · exact tidy_nil

end

namespace Builder

/-- Both the finished part of a document and its open table are tidy. -/
structure Sound (b : Builder) : Prop where
  root : Tidy Node.Sound b.root
  open_ : Tidy Node.Sound b.open_

variable {b next : Builder}

theorem sound_start : Sound start := ⟨tidy_nil, tidy_nil⟩

theorem Sound.close {root : List (String × Node)} (sound : b.Sound)
    (closed : b.close = some root) : Tidy Node.Sound root := by
  unfold Builder.close at closed
  split at closed
  · cases closed
    exact sound.open_
  · exact Change.keeps_at (keeps_declareChange sound.open_) _ _ _ _ _ sound.root closed
  · exact Change.keeps_at (keeps_pushChange sound.open_) _ _ _ _ _ sound.root closed

/-- A statement keeps all tables tidy. -/
theorem sound_step {s : Statement} (sound : b.Sound) (value : s.Sound)
    (done : b.step s = some next) : next.Sound := by
  cases s with
  | assign path v =>
    obtain ⟨⟨parent, key⟩, -, done⟩ := Option.bind_eq_some_iff.1 done
    obtain ⟨opened, here, ⟨⟩⟩ := Option.bind_eq_some_iff.1 done
    exact ⟨sound.root,
      Change.keeps_at (keeps_assignChange value _) _ _ _ _ _ sound.open_ here⟩
  | table path =>
    obtain ⟨root, closed, done⟩ := Option.bind_eq_some_iff.1 done
    obtain ⟨⟨parent, key⟩, -, done⟩ := Option.bind_eq_some_iff.1 done
    obtain ⟨root', here, ⟨⟩⟩ := Option.bind_eq_some_iff.1 done
    have tidy := sound.close closed
    exact ⟨Change.keeps_at keeps_removeChange _ _ _ _ _ tidy here,
      tidy_childEntries (tidy_entriesAt tidy)⟩
  | item path =>
    obtain ⟨root, closed, done⟩ := Option.bind_eq_some_iff.1 done
    obtain ⟨⟨parent, key⟩, -, done⟩ := Option.bind_eq_some_iff.1 done
    obtain ⟨root', here, ⟨⟩⟩ := Option.bind_eq_some_iff.1 done
    exact ⟨Change.keeps_at keeps_itemChange _ _ _ _ _ (sound.close closed) here, tidy_nil⟩

/-- So does a list of statements. -/
theorem sound_foldlM {list : List Statement} (values : ∀ s ∈ list, s.Sound)
    (done : list.foldlM step start = some b) : b.Sound :=
  foldlM_keeps (fun s mem _ _ sound step => sound_step sound (values s mem) step) sound_start done

end Builder

/-- The table of a document is sound. -/
theorem sound_parse {text : String} {entries : List (String × Toml)}
    (parsed : parse text = .ok entries) : Sound (.table entries) := by
  unfold parse at parsed
  simp only at parsed
  split at parsed
  · next root built =>
    cases parsed
    obtain ⟨list, read, built⟩ := Option.bind_eq_some_iff.1 built
    obtain ⟨b, folded, closed⟩ := Option.bind_eq_some_iff.1 built
    have values : ∀ s ∈ list, s.Sound := sound_lines read
    have tidy := (Builder.sound_foldlM values folded).close closed
    have sound := (@Node.sound_table_iff ⟨false, false⟩ _).2 tidy
    exact sound.toToml
  · cases parsed

end HomeBus.Toml
