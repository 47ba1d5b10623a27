/-
This file holds finite sets whose elements are listed in order. Membership after each
operation is stated once.
-/

import Entitlement.Ordered.Basic

namespace Entitlement

/-- A finite set with its elements in order. -/
structure OrderedSet (Element : Type) [Ord Element] where
  elements : List Element
  increasing : Increasing elements
deriving DecidableEq

namespace OrderedSet

variable {Element : Type} [Ord Element]

/-! ### The operations -/

def empty : OrderedSet Element :=
  ⟨[], Increasing.nil⟩

instance : Inhabited (OrderedSet Element) := ⟨empty⟩

instance : Membership Element (OrderedSet Element) where
  mem set element := element ∈ set.elements

def contains (set : OrderedSet Element) (element : Element) : Bool :=
  set.elements.any fun other => compare other element == .eq

def size (set : OrderedSet Element) : Nat :=
  set.elements.length

def isEmpty (set : OrderedSet Element) : Bool :=
  set.elements.isEmpty

/-- The list with the element in its place. -/
def place (element : Element) : List Element → List Element
  | [] => [element]
  | other :: rest =>
    match compare element other with
    | .lt => element :: other :: rest
    | .eq => other :: rest
    | .gt => other :: place element rest

theorem mem_place_imp {element other : Element} {elements : List Element}
    (member : other ∈ place element elements) : other = element ∨ other ∈ elements := by
  induction elements with
  | nil => simpa [place] using member
  | cons first rest inductionHypothesis =>
    unfold place at member
    split at member
    · simpa using member
    · exact Or.inr member
    · rcases List.mem_cons.1 member with head | tail
      · exact Or.inr (head ▸ List.mem_cons_self ..)
      · exact (inductionHypothesis tail).imp id (List.mem_cons_of_mem _)

theorem increasing_place [Std.TransOrd Element] (element : Element) {elements : List Element}
    (increasing : Increasing elements) : Increasing (place element elements) := by
  induction elements with
  | nil => exact List.pairwise_singleton ..
  | cons first rest inductionHypothesis =>
    unfold place
    split
    · next before =>
      refine List.pairwise_cons.2 ⟨fun other member => ?_, increasing⟩
      rcases List.mem_cons.1 member with head | tail
      · exact head ▸ before
      · exact Std.TransCmp.lt_trans before (increasing.head_lt other tail)
    · exact increasing
    · next after =>
      refine List.pairwise_cons.2 ⟨fun other member => ?_, inductionHypothesis increasing.tail⟩
      rcases mem_place_imp member with head | tail
      · exact head ▸ Std.OrientedCmp.gt_iff_lt.1 after
      · exact increasing.head_lt other tail

def insert [Std.TransOrd Element] (set : OrderedSet Element) (element : Element) :
    OrderedSet Element :=
  ⟨place element set.elements, increasing_place element set.increasing⟩

/-- The elements that pass the test. -/
def filter (set : OrderedSet Element) (keep : Element → Bool) : OrderedSet Element :=
  ⟨set.elements.filter keep, set.increasing.sublist List.filter_sublist⟩

def erase (set : OrderedSet Element) (element : Element) : OrderedSet Element :=
  set.filter fun other => compare other element != .eq

def ofList [Std.TransOrd Element] (elements : List Element) : OrderedSet Element :=
  elements.foldl insert empty

def union [Std.TransOrd Element] (left right : OrderedSet Element) : OrderedSet Element :=
  right.elements.foldl insert left

/-! ### Membership after each operation -/

theorem mem_def {set : OrderedSet Element} {element : Element} :
    element ∈ set ↔ element ∈ set.elements :=
  Iff.rfl

theorem contains_iff [Std.LawfulEqOrd Element] [Std.TransOrd Element]
    {set : OrderedSet Element} {element : Element} :
    set.contains element = true ↔ element ∈ set := by
  unfold contains
  rw [List.any_eq_true]
  constructor
  · rintro ⟨other, member, same⟩
    exact Std.LawfulEqOrd.compare_eq_iff_eq.1 (eq_of_beq same) ▸ member
  · intro member
    exact ⟨element, member, beq_iff_eq.2 Std.ReflCmp.compare_self⟩

@[simp] theorem not_mem_empty (element : Element) : ¬element ∈ (empty : OrderedSet Element) :=
  List.not_mem_nil

theorem mem_insert [Std.TransOrd Element] [Std.LawfulEqOrd Element] {set : OrderedSet Element}
    {element other : Element} : other ∈ set.insert element ↔ other = element ∨ other ∈ set := by
  refine ⟨mem_place_imp, ?_⟩
  show _ → other ∈ place element set.elements
  rw [mem_def]
  induction set.elements with
  | nil => simp [place]
  | cons first rest inductionHypothesis =>
    intro either
    unfold place
    split
    · simpa using either
    · next same =>
      rcases either with head | tail
      · exact head ▸ Std.LawfulEqOrd.compare_eq_iff_eq.1 same ▸ List.mem_cons_self ..
      · exact tail
    · rcases either with head | tail
      · exact List.mem_cons_of_mem _ (inductionHypothesis (Or.inl head))
      · rcases List.mem_cons.1 tail with atHead | inRest
        · exact atHead ▸ List.mem_cons_self ..
        · exact List.mem_cons_of_mem _ (inductionHypothesis (Or.inr inRest))

theorem mem_filter {set : OrderedSet Element} {keep : Element → Bool} {element : Element} :
    element ∈ set.filter keep ↔ element ∈ set ∧ keep element = true :=
  List.mem_filter

theorem mem_erase [Std.TransOrd Element] [Std.LawfulEqOrd Element] {set : OrderedSet Element}
    {element other : Element} : other ∈ set.erase element ↔ other ∈ set ∧ other ≠ element := by
  unfold erase
  rw [mem_filter, bne_iff_ne, ne_eq, Std.LawfulEqOrd.compare_eq_iff_eq]

end OrderedSet

end Entitlement
