/-
This file holds finite maps whose entries are listed in the order of their keys. A map is
determined by what it gives for each key (`OrderedMap.ext_get?`), and the look-up after each
change is stated once, so that nothing else needs to open the list of entries.
-/

import Entitlement.Ordered.Basic

namespace Entitlement

/-- A finite map with its entries in the order of the keys. -/
structure OrderedMap (Key Value : Type) [Ord Key] where
  entries : List (Key × Value)
  increasing : Increasing (entries.map Prod.fst)
deriving DecidableEq

namespace OrderedMap

variable {Key Value : Type} [Ord Key]

/-! ### The operations -/

def empty : OrderedMap Key Value :=
  ⟨[], Increasing.nil⟩

instance : Inhabited (OrderedMap Key Value) := ⟨empty⟩

/-- The value at a key in a list of entries. -/
def find (key : Key) (entries : List (Key × Value)) : Option Value :=
  (entries.find? fun entry => compare entry.1 key == .eq).map Prod.snd

def get? (map : OrderedMap Key Value) (key : Key) : Option Value :=
  find key map.entries

def contains (map : OrderedMap Key Value) (key : Key) : Bool :=
  (map.get? key).isSome

def keys (map : OrderedMap Key Value) : List Key :=
  map.entries.map Prod.fst

def size (map : OrderedMap Key Value) : Nat :=
  map.entries.length

/-- The entries with `key` bound to `value`: in the place of the old value, or else in order. -/
def place (key : Key) (value : Value) : List (Key × Value) → List (Key × Value)
  | [] => [(key, value)]
  | entry :: rest =>
    match compare key entry.1 with
    | .lt => (key, value) :: entry :: rest
    | .eq => (key, value) :: rest
    | .gt => entry :: place key value rest

theorem mem_keys_place {key other : Key} {value : Value} {entries : List (Key × Value)}
    (member : other ∈ (place key value entries).map Prod.fst) :
    other = key ∨ other ∈ entries.map Prod.fst := by
  induction entries with
  | nil => simpa [place] using member
  | cons entry rest inductionHypothesis =>
    unfold place at member
    split at member
    · simpa using member
    · rcases List.mem_cons.1 member with head | tail
      · exact Or.inl head
      · exact Or.inr (List.mem_cons_of_mem _ tail)
    · rcases List.mem_cons.1 member with head | tail
      · exact Or.inr (head ▸ List.mem_cons_self ..)
      · exact (inductionHypothesis tail).imp id (List.mem_cons_of_mem _)

theorem increasing_place [Std.TransOrd Key] (key : Key) (value : Value)
    {entries : List (Key × Value)} (increasing : Increasing (entries.map Prod.fst)) :
    Increasing ((place key value entries).map Prod.fst) := by
  induction entries with
  | nil => exact List.pairwise_singleton ..
  | cons entry rest inductionHypothesis =>
    unfold place
    split
    · next before =>
      refine List.pairwise_cons.2 ⟨fun other member => ?_, increasing⟩
      rcases List.mem_cons.1 member with head | tail
      · exact head ▸ before
      · exact Std.TransCmp.lt_trans before (increasing.head_lt other tail)
    · next same =>
      refine List.pairwise_cons.2 ⟨fun other member => ?_, increasing.tail⟩
      exact Std.TransCmp.lt_of_eq_of_lt same (increasing.head_lt other member)
    · next after =>
      refine List.pairwise_cons.2 ⟨fun other member => ?_, inductionHypothesis increasing.tail⟩
      rcases mem_keys_place member with head | tail
      · exact head ▸ Std.OrientedCmp.gt_iff_lt.1 after
      · exact increasing.head_lt other tail

def insert [Std.TransOrd Key] (map : OrderedMap Key Value) (key : Key) (value : Value) :
    OrderedMap Key Value :=
  ⟨place key value map.entries, increasing_place key value map.increasing⟩

/-- The entries that pass the test. -/
def filter (map : OrderedMap Key Value) (keep : Key → Value → Bool) : OrderedMap Key Value :=
  ⟨map.entries.filter fun entry => keep entry.1 entry.2,
    map.increasing.sublist (List.filter_sublist.map _)⟩

def erase (map : OrderedMap Key Value) (key : Key) : OrderedMap Key Value :=
  map.filter fun other _ => compare other key != .eq

/-- The map of a list of entries, the last of several with one key. -/
def ofList [Std.TransOrd Key] (entries : List (Key × Value)) : OrderedMap Key Value :=
  entries.foldl (fun map entry => map.insert entry.1 entry.2) empty

/-! ### What a look-up gives after each operation -/

theorem ext {left right : OrderedMap Key Value} (same : left.entries = right.entries) :
    left = right := by
  cases left
  cases right
  cases same
  rfl

@[simp] theorem get?_empty (key : Key) : (empty : OrderedMap Key Value).get? key = none :=
  rfl

theorem find_cons (key : Key) (entry : Key × Value) (rest : List (Key × Value)) :
    find key (entry :: rest) =
      if compare entry.1 key = .eq then some entry.2 else find key rest := by
  unfold find
  rw [List.find?_cons]
  by_cases same : compare entry.1 key = .eq
  · simp [same]
  · simp [same, beq_eq_false_iff_ne.2 same]

theorem get?_insert [Std.TransOrd Key] [Std.LawfulEqOrd Key] (map : OrderedMap Key Value)
    (key other : Key) (value : Value) :
    (map.insert key value).get? other =
      if compare key other = .eq then some value else map.get? other := by
  show find other (place key value map.entries) = _
  unfold get?
  induction map.entries with
  | nil => rw [place, find_cons]
  | cons entry rest inductionHypothesis =>
    unfold place
    split
    · rw [find_cons]
    · next same =>
      rw [find_cons, find_cons, Std.LawfulEqOrd.compare_eq_iff_eq.1 same]
      split <;> rfl
    · next after =>
      rw [find_cons, find_cons, inductionHypothesis]
      by_cases here : compare entry.1 other = .eq
      · rw [if_pos here, if_pos here, if_neg]
        rw [← Std.LawfulEqOrd.compare_eq_iff_eq.1 here, after]
        decide
      · rw [if_neg here, if_neg here]

theorem find_eq_some_iff_mem [Std.TransOrd Key] [Std.LawfulEqOrd Key] {key : Key} {value : Value}
    {entries : List (Key × Value)} (increasing : Increasing (entries.map Prod.fst)) :
    find key entries = some value ↔ (key, value) ∈ entries := by
  induction entries with
  | nil => simp [find]
  | cons entry rest inductionHypothesis =>
    rw [find_cons, List.mem_cons]
    by_cases same : compare entry.1 key = .eq
    · rw [if_pos same]
      have equal := Std.LawfulEqOrd.compare_eq_iff_eq.1 same
      constructor
      · intro found
        exact Or.inl (Prod.ext equal.symm (Option.some.inj found).symm)
      · rintro (head | tail)
        · rw [← head]
        · have before := increasing.head_lt key (List.mem_map_of_mem tail)
          rw [same] at before
          exact absurd before (by decide)
    · rw [if_neg same, inductionHypothesis increasing.tail]
      constructor
      · exact Or.inr
      · rintro (head | tail)
        · exact absurd (head ▸ Std.ReflCmp.compare_self) same
        · exact tail

theorem get?_eq_some_iff_mem [Std.TransOrd Key] [Std.LawfulEqOrd Key]
    {map : OrderedMap Key Value} {key : Key} {value : Value} :
    map.get? key = some value ↔ (key, value) ∈ map.entries :=
  find_eq_some_iff_mem map.increasing

theorem get?_filter_eq_some [Std.TransOrd Key] [Std.LawfulEqOrd Key]
    {map : OrderedMap Key Value} {keep : Key → Value → Bool} {key : Key} {value : Value} :
    (map.filter keep).get? key = some value ↔
      map.get? key = some value ∧ keep key value = true := by
  rw [get?_eq_some_iff_mem, get?_eq_some_iff_mem]
  exact List.mem_filter

theorem get?_erase [Std.TransOrd Key] [Std.LawfulEqOrd Key] (map : OrderedMap Key Value)
    (key other : Key) :
    (map.erase key).get? other = if compare key other = .eq then none else map.get? other := by
  refine Option.ext fun value => ?_
  unfold erase
  rw [get?_filter_eq_some]
  by_cases same : compare key other = .eq
  · rw [if_pos same, Std.LawfulEqOrd.compare_eq_iff_eq.1 same]
    simp [Std.ReflCmp.compare_self]
  · rw [if_neg same]
    have apart : compare other key ≠ .eq := fun equal => same (Std.OrientedCmp.eq_symm equal)
    simp [apart]

end OrderedMap

end Entitlement
