import HomeBus.Json.Basic
import HomeBus.Proofs.Dict

/-!
# JSON values as trees

A tree may hold a key more than once; `collapse` puts the members of every object in order and of
those with one key keeps the last. `Integral` says that there is no double among the numbers.

Results:
* `Json.induct`: induction over a tree through its children.
* `canonical_collapse`, `collapse_of_canonical`: collapsing gives a canonical value, and leaves such
  a value as it is.
* `depth_collapse_le`: it does not nest deeper.
-/

namespace HomeBus.Json

/-! ## Children -/

/-- What holds of a tree when it holds of its children holds of every tree. -/
@[elab_as_elim]
theorem induct {motive : Json → Prop} (null : motive .null) (bool : ∀ b, motive (.bool b))
    (num : ∀ n, motive (.num n)) (str : ∀ s, motive (.str s))
    (arr : ∀ items, (∀ item ∈ items, motive item) → motive (.arr items))
    (obj : ∀ members, (∀ member ∈ members, motive member.2) → motive (.obj members))
    (v : Json) : motive v := by
  refine @Json.rec motive (fun items => ∀ item ∈ items, motive item)
    (fun members => ∀ member ∈ members, motive member.2) (fun member => motive member.2)
    null bool num str arr obj ?_ ?_ ?_ ?_ ?_ v
  · exact nofun
  · exact fun item rest here others => List.forall_mem_cons.2 ⟨here, others⟩
  · exact nofun
  · exact fun member rest here others => List.forall_mem_cons.2 ⟨here, others⟩
  · exact fun key value here => here

theorem itemsDepth_le_iff {items : List Json} {n : ℕ} :
    itemsDepth items ≤ n ↔ ∀ item ∈ items, item.depth ≤ n := by
  induction items with
  | nil => simp [itemsDepth]
  | cons item rest ih => rw [itemsDepth, Nat.max_le, ih, List.forall_mem_cons]

theorem membersDepth_le_iff {members : List (String × Json)} {n : ℕ} :
    membersDepth members ≤ n ↔ ∀ member ∈ members, member.2.depth ≤ n := by
  induction members with
  | nil => simp [membersDepth]
  | cons member rest ih => rw [membersDepth, Nat.max_le, ih, List.forall_mem_cons]

/-- A change of values that keeps each value of an object keeps its members. -/
theorem map_members_eq_self {f : Json → Json} {members : List (String × Json)}
    (h : ∀ member ∈ members, f member.2 = member.2) :
    (members.map fun member => (member.1, f member.2)) = members := by
  conv_rhs => rw [← List.map_id members]
  exact List.map_congr_left fun member mem => Prod.ext rfl (h member mem)

/-! ## Whole numbers -/

mutual

/-- There is no double among the numbers. -/
def Integral : Json → Prop
  | .num (.double _ _) => False
  | .arr items => IntegralItems items
  | .obj members => IntegralMembers members
  | _ => True

def IntegralItems : List Json → Prop
  | [] => True
  | item :: rest => Integral item ∧ IntegralItems rest

def IntegralMembers : List (String × Json) → Prop
  | [] => True
  | (_, value) :: rest => Integral value ∧ IntegralMembers rest

end

theorem integralItems_iff {items : List Json} :
    IntegralItems items ↔ ∀ item ∈ items, Integral item := by
  induction items with
  | nil => simp [IntegralItems]
  | cons item rest ih => rw [IntegralItems, ih, List.forall_mem_cons]

theorem integralMembers_iff {members : List (String × Json)} :
    IntegralMembers members ↔ ∀ member ∈ members, Integral member.2 := by
  induction members with
  | nil => simp [IntegralMembers]
  | cons member rest ih => rw [IntegralMembers, ih, List.forall_mem_cons]

/-! ## Repeated keys -/

mutual

/-- The members of every object in order of their keys; of those with one key the last counts. -/
def collapse : Json → Json
  | .arr items => .arr (collapseItems items)
  | .obj members => ofMembers (collapseMembers members)
  | other => other

def collapseItems : List Json → List Json
  | [] => []
  | item :: rest => collapse item :: collapseItems rest

def collapseMembers : List (String × Json) → List (String × Json)
  | [] => []
  | (key, value) :: rest => (key, collapse value) :: collapseMembers rest

end

theorem collapseItems_eq_map (items : List Json) : collapseItems items = items.map collapse := by
  induction items with
  | nil => rfl
  | cons item rest ih => rw [collapseItems, ih, List.map_cons]

theorem collapseMembers_eq_map (members : List (String × Json)) :
    collapseMembers members = members.map fun member => (member.1, member.2.collapse) := by
  induction members with
  | nil => rfl
  | cons member rest ih => rw [collapseMembers, ih, List.map_cons]

theorem collapseMembers_append (members more : List (String × Json)) :
    collapseMembers (members ++ more) = collapseMembers members ++ collapseMembers more := by
  simp only [collapseMembers_eq_map, List.map_append]

theorem keys_collapseMembers (members : List (String × Json)) :
    Entries.keys (collapseMembers members) = Entries.keys members := by
  simp only [Entries.keys, collapseMembers_eq_map, List.map_map, Function.comp_def]

/-- A member that is kept was there before. -/
theorem exists_of_mem_collapsed {members : List (String × Json)} {member : String × Json}
    (mem : member ∈ Entries.ofList (collapseMembers members)) :
    ∃ written ∈ members, (written.1, written.2.collapse) = member := by
  have source := Entries.mem_of_mem_ofList mem
  rw [collapseMembers_eq_map] at source
  exact List.mem_map.1 source

/-- Collapsing gives a canonical value. -/
theorem canonical_collapse (v : Json) : v.collapse.Canonical := by
  induction v using induct with
  | null | bool | num | str => trivial
  | arr items ih =>
    rw [collapse, Canonical, canonicalItems_iff, collapseItems_eq_map]
    exact List.forall_mem_map.2 ih
  | obj members ih =>
    rw [collapse, ofMembers, Canonical, canonicalMembers_iff]
    refine ⟨Entries.sorted_ofList _, fun member mem => ?_⟩
    obtain ⟨written, inside, rfl⟩ := exists_of_mem_collapsed mem
    exact ih written inside

/-- A canonical value has nothing to collapse. -/
theorem collapse_of_canonical {v : Json} (h : v.Canonical) : v.collapse = v := by
  induction v using induct with
  | null | bool | num | str => rfl
  | arr items ih =>
    rw [Canonical, canonicalItems_iff] at h
    have each := List.map_congr_left fun item mem => ih item mem (h item mem)
    rw [collapse, collapseItems_eq_map, each, List.map_id']
  | obj members ih =>
    rw [Canonical, canonicalMembers_iff] at h
    have same := map_members_eq_self fun member mem => ih member mem (h.2 member mem)
    rw [collapse, collapseMembers_eq_map, same, ofMembers, Entries.ofList_of_sorted h.1]

/-- Collapsing does not nest deeper. -/
theorem depth_collapse_le (v : Json) : v.collapse.depth ≤ v.depth := by
  induction v using induct with
  | null | bool | num | str => exact Nat.le_refl _
  | arr items ih =>
    rw [collapse, depth, depth, collapseItems_eq_map]
    have inner := itemsDepth_le_iff.1 (Nat.le_refl (itemsDepth items))
    refine Nat.succ_le_succ (itemsDepth_le_iff.2 (List.forall_mem_map.2 fun item mem => ?_))
    exact Nat.le_trans (ih item mem) (inner item mem)
  | obj members ih =>
    rw [collapse, ofMembers, depth, depth]
    have inner := membersDepth_le_iff.1 (Nat.le_refl (membersDepth members))
    refine Nat.succ_le_succ (membersDepth_le_iff.2 fun member mem => ?_)
    obtain ⟨written, inside, rfl⟩ := exists_of_mem_collapsed mem
    exact Nat.le_trans (ih written inside) (inner written inside)

end HomeBus.Json
