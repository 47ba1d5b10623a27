/-
This file adds to the ordered maps and sets what proofs about the ledger ask of them: what is found
in a map after an insertion and in one whose values are changed, membership in a set that is built
from a list, and the fact that a set is determined by its members and a map by its look-ups.
-/

import Entitlement.Ordered.Map
import Entitlement.Ordered.Set
import Mathlib.Data.List.Nodup

namespace Entitlement

/-! ### Maps -/

namespace OrderedMap

variable {Key Value : Type} [Ord Key]

theorem contains_iff {map : OrderedMap Key Value} {key : Key} :
    map.contains key = true ↔ ∃ value, map.get? key = some value :=
  Option.isSome_iff_exists

variable [Std.TransOrd Key] [Std.LawfulEqOrd Key]

theorem get?_insert_self (map : OrderedMap Key Value) (key : Key) (value : Value) :
    (map.insert key value).get? key = some value := by
  rw [get?_insert, if_pos Std.ReflCmp.compare_self]

theorem get?_insert_of_ne (map : OrderedMap Key Value) {key other : Key} (value : Value)
    (apart : key ≠ other) : (map.insert key value).get? other = map.get? other := by
  rw [get?_insert, if_neg fun same => apart (Std.LawfulEqOrd.compare_eq_iff_eq.1 same)]

theorem get?_insert_if [DecidableEq Key] (map : OrderedMap Key Value) (key other : Key)
    (value : Value) :
    (map.insert key value).get? other = if key = other then some value else map.get? other := by
  rw [get?_insert]
  simp only [Std.LawfulEqOrd.compare_eq_iff_eq]

theorem get?_erase_if [DecidableEq Key] (map : OrderedMap Key Value) (key other : Key) :
    (map.erase key).get? other = if key = other then none else map.get? other := by
  rw [get?_erase]
  simp only [Std.LawfulEqOrd.compare_eq_iff_eq]

theorem get?_insert_eq_some {map : OrderedMap Key Value} {key other : Key} {value found : Value} :
    (map.insert key value).get? other = some found ↔
      (other = key ∧ found = value) ∨ (other ≠ key ∧ map.get? other = some found) := by
  by_cases same : key = other
  · subst same
    rw [get?_insert_self]
    simp [eq_comm]
  · rw [get?_insert_of_ne map value same]
    simp [Ne.symm same]

theorem contains_insert {map : OrderedMap Key Value} {key other : Key} {value : Value} :
    (map.insert key value).contains other = true ↔ other = key ∨ map.contains other = true := by
  by_cases same : key = other
  · subst same
    simp [contains, get?_insert_self]
  · unfold contains
    rw [get?_insert_of_ne map value same]
    simp [Ne.symm same]

theorem get?_erase_eq_some {map : OrderedMap Key Value} {key other : Key} {found : Value} :
    (map.erase key).get? other = some found ↔ other ≠ key ∧ map.get? other = some found := by
  rw [get?_erase]
  by_cases same : compare key other = .eq
  · rw [if_pos same, Std.LawfulEqOrd.compare_eq_iff_eq.1 same]
    simp
  · rw [if_neg same]
    have apart : other ≠ key := fun equal => same (equal ▸ Std.ReflCmp.compare_self)
    simp [apart]

theorem contains_erase {map : OrderedMap Key Value} {key other : Key} :
    (map.erase key).contains other = true ↔ other ≠ key ∧ map.contains other = true := by
  rw [contains_iff, contains_iff, ← exists_and_left]
  exact exists_congr fun _ => get?_erase_eq_some

omit [Std.TransOrd Key] in
theorem nodup_keys (map : OrderedMap Key Value) : (map.entries.map Prod.fst).Nodup := by
  refine map.increasing.imp fun before equal => ?_
  exact absurd before (Std.LawfulEqOrd.compare_eq_iff_eq.2 equal ▸ by decide)

omit [Std.TransOrd Key] in
theorem nodup_entries (map : OrderedMap Key Value) : map.entries.Nodup :=
  List.Nodup.of_map _ map.nodup_keys

/-- A key that was not in the map is one more. -/
theorem size_insert_of_none {map : OrderedMap Key Value} {key : Key} (value : Value)
    (missing : map.get? key = none) : (map.insert key value).size = map.size + 1 := by
  have absent : (key, value) ∉ map.entries := by
    rw [← get?_eq_some_iff_mem, missing]
    exact nofun
  have permuted : (map.insert key value).entries.Perm ((key, value) :: map.entries) := by
    refine (List.perm_ext_iff_of_nodup (nodup_entries _)
      (List.nodup_cons.2 ⟨absent, map.nodup_entries⟩)).2 fun entry => ?_
    rw [List.mem_cons, ← get?_eq_some_iff_mem, ← get?_eq_some_iff_mem, get?_insert_eq_some,
      Prod.ext_iff]
    refine or_congr_right (and_iff_right_of_imp fun found same => ?_)
    rw [same, missing] at found
    cases found
  exact permuted.length_eq

/-- A key that is taken out of the map is one less. -/
theorem size_erase_of_some {map : OrderedMap Key Value} {key : Key} {value : Value}
    (found : map.get? key = some value) : (map.erase key).size + 1 = map.size := by
  have permuted : map.entries.Perm ((key, value) :: (map.erase key).entries) := by
    refine (List.perm_ext_iff_of_nodup map.nodup_entries
      (List.nodup_cons.2 ⟨?_, nodup_entries _⟩)).2 fun entry => ?_
    · rw [← get?_eq_some_iff_mem, get?_erase_eq_some]
      exact fun left => left.1 rfl
    · rw [List.mem_cons, ← get?_eq_some_iff_mem, ← get?_eq_some_iff_mem, get?_erase_eq_some,
        Prod.ext_iff]
      by_cases same : entry.1 = key
      · rw [same, found]
        simp [eq_comm]
      · simp [same]
  exact permuted.length_eq.symm

/-- Maps with the same values at all keys are equal, since each lists its entries in order. -/
theorem ext_get? {left right : OrderedMap Key Value}
    (same : ∀ key, left.get? key = right.get? key) : left = right := by
  have permuted : left.entries.Perm right.entries := by
    refine (List.perm_ext_iff_of_nodup left.nodup_entries right.nodup_entries).2 fun entry => ?_
    rw [← get?_eq_some_iff_mem, ← get?_eq_some_iff_mem, same]
  refine ext (permuted.eq_of_pairwise ?_ (List.pairwise_map.1 left.increasing)
    (List.pairwise_map.1 right.increasing))
  intro first second _ _ before after
  exact absurd after (Std.OrientedCmp.not_lt_of_lt before)

end OrderedMap

/-! ### Maps whose values are changed -/

namespace OrderedMap

variable {Key Value Other : Type} [Ord Key]

/-- The map with other values at the same keys. -/
def mapValues (change : Value → Other) (map : OrderedMap Key Value) : OrderedMap Key Other where
  entries := map.entries.map fun entry => (entry.1, change entry.2)
  increasing := by
    rw [List.map_map]
    exact map.increasing

theorem get?_mapValues (change : Value → Other) (map : OrderedMap Key Value) (key : Key) :
    (map.mapValues change).get? key = (map.get? key).map change := by
  unfold get? find mapValues
  rw [List.find?_map, Option.map_map, Option.map_map]
  rfl

theorem contains_mapValues (change : Value → Other) (map : OrderedMap Key Value) (key : Key) :
    (map.mapValues change).contains key = map.contains key := by
  unfold contains
  rw [get?_mapValues, Option.isSome_map]

theorem mapValues_filter (change : Value → Other) (map : OrderedMap Key Value)
    (keep : Key → Bool) :
    (map.filter fun key _ => keep key).mapValues change =
      (map.mapValues change).filter fun key _ => keep key := by
  refine ext ?_
  show (map.entries.filter _).map _ = (map.entries.map _).filter _
  rw [List.filter_map]
  rfl

theorem mapValues_erase (change : Value → Other) (map : OrderedMap Key Value) (key : Key) :
    (map.erase key).mapValues change = (map.mapValues change).erase key :=
  mapValues_filter change map _

theorem mapValues_insert [Std.TransOrd Key] [Std.LawfulEqOrd Key] (change : Value → Other)
    (map : OrderedMap Key Value) (key : Key) (value : Value) :
    (map.insert key value).mapValues change = (map.mapValues change).insert key (change value) := by
  refine ext_get? fun other => ?_
  rw [get?_mapValues, get?_insert, get?_insert, get?_mapValues]
  split <;> rfl

end OrderedMap

/-! ### Sets -/

namespace OrderedSet

variable {Element : Type} [Ord Element] [Std.TransOrd Element] [Std.LawfulEqOrd Element]

theorem mem_foldl_insert {set : OrderedSet Element} {elements : List Element} {element : Element} :
    element ∈ elements.foldl insert set ↔ element ∈ elements ∨ element ∈ set := by
  induction elements generalizing set with
  | nil => simp
  | cons first rest inductionHypothesis =>
    rw [List.foldl_cons, inductionHypothesis, mem_insert, List.mem_cons]
    tauto

theorem mem_union {left right : OrderedSet Element} {element : Element} :
    element ∈ left.union right ↔ element ∈ left ∨ element ∈ right :=
  mem_foldl_insert.trans or_comm

theorem mem_ofList {elements : List Element} {element : Element} :
    element ∈ ofList elements ↔ element ∈ elements := by
  unfold ofList
  rw [mem_foldl_insert]
  simp

/-- Sets with the same members are equal, since each lists them in order. -/
theorem ext_mem {left right : OrderedSet Element}
    (same : ∀ element, element ∈ left ↔ element ∈ right) : left = right := by
  have distinct : ∀ set : OrderedSet Element, set.elements.Nodup := by
    intro set
    refine set.increasing.imp fun before equal => ?_
    exact absurd before (Std.LawfulEqOrd.compare_eq_iff_eq.2 equal ▸ by decide)
  have sorted : left.elements = right.elements := by
    refine ((List.perm_ext_iff_of_nodup (distinct left) (distinct right)).2 same).eq_of_pairwise
      ?_ left.increasing right.increasing
    intro first second _ _ before after
    exact absurd after (Std.OrientedCmp.not_lt_of_lt before)
  cases left
  cases right
  cases sorted
  rfl

end OrderedSet

end Entitlement
