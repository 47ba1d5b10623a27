/-
This file says what is left of several keys when they are given to a role one after the other. In a
component in which `all` lists every other action a key for a single action gives way to the same
key for `all`, whichever of the two comes first, and nothing else is lost (`Catalogue.Settled`). So
what a role holds in the end depends on which keys it was given and not on their order.
-/

import Entitlement.Proofs.Exclusion
import Entitlement.Proofs.Granting

namespace Entitlement

namespace Catalogue

/-- Whether `all` lists every other action of the component. -/
def ListsAll (catalogue : Catalogue) (component : String) : Prop :=
  ∃ all, catalogue.all component = .ok all ∧ ∀ name action,
    catalogue.resolve component name = .ok action → action.name ≠ Action.allName →
      all.includes action = true

/-- Whether the key, of a component in which `all` lists every other action, is for another action
than `all` while the same key for `all` is among the keys. -/
def Absorbed (catalogue : Catalogue) (keys : RecordKey → Prop) (key : RecordKey) : Prop :=
  catalogue.ListsAll key.component ∧ key.action ≠ Action.allName ∧
    keys (key.withAction Action.allName)

/-- The keys without those that give way to others of them. -/
def Settled (catalogue : Catalogue) (keys : RecordKey → Prop) (key : RecordKey) : Prop :=
  keys key ∧ ¬catalogue.Absorbed keys key

variable {catalogue : Catalogue}

/-- A key for another action than `all` is for a member of `all`. -/
theorem ListsAll.exists_member {key : RecordKey} (lists : catalogue.ListsAll key.component)
    (fits : catalogue.Fits key) (single : key.action ≠ Action.allName) {all : Action}
    (isAll : catalogue.all key.component = .ok all) :
    ∃ member ∈ all.members, member.name = key.action := by
  obtain ⟨action, resolved, named⟩ := fits.action
  obtain ⟨whole, isWhole, listed⟩ := lists
  obtain rfl : whole = all := Except.ok.inj (isWhole.symm.trans isAll)
  obtain ⟨member, isMember, same⟩ := List.any_eq_true.1 (listed _ action resolved (named ▸ single))
  exact ⟨member, isMember, (Action.beq_iff.1 same).trans named⟩

theorem listsAll_of_entries {component : String} {vocabulary : Vocabulary}
    (found : catalogue.vocabularies.component component = .ok vocabulary)
    (listed : ∀ entry ∈ vocabulary.actions.entries, entry.2.name ≠ Action.allName →
      vocabulary.all.includes entry.2 = true) : catalogue.ListsAll component := by
  refine ⟨vocabulary.all, StoreError.lift_eq_ok.2 (Vocabularies.all_eq_ok.2 ⟨_, found, rfl⟩), ?_⟩
  intro name action resolved
  obtain ⟨same, sameFound, known⟩ :=
    Vocabularies.resolve_eq_ok.1 (StoreError.lift_eq_ok.1 resolved)
  obtain rfl : vocabulary = same := Except.ok.inj (found.symm.trans sameFound)
  exact listed _ (OrderedMap.get?_eq_some_iff_mem.1 known)

theorem settled_congr {keys others : RecordKey → Prop} (same : ∀ key, keys key ↔ others key)
    (key : RecordKey) : catalogue.Settled keys key ↔ catalogue.Settled others key := by
  unfold Settled Absorbed
  rw [same, same]

/-- What gives way to one of several keys and another one gives way to one of the several or to the
other one. -/
theorem absorbed_add {keys : RecordKey → Prop} {added key : RecordKey} :
    catalogue.Absorbed (fun other => keys other ∨ other = added) key ↔
      catalogue.Absorbed keys key ∨ (catalogue.ListsAll key.component ∧
        key.action ≠ Action.allName ∧ key.withAction Action.allName = added) := by
  unfold Absorbed
  rw [← and_or_left, ← and_or_left]

/-- To take out a key to which no other one gives way makes no difference to the others. -/
theorem settled_remove {keys : RecordKey → Prop} {taken : RecordKey}
    (needed : ∀ key, keys key → catalogue.Absorbed keys key →
      key.withAction Action.allName ≠ taken) (key : RecordKey) :
    catalogue.Settled keys key ∧ key ≠ taken ↔
      catalogue.Settled (fun other => keys other ∧ other ≠ taken) key := by
  constructor
  · rintro ⟨⟨isKey, kept⟩, apart⟩
    exact ⟨⟨isKey, apart⟩, fun ⟨lists, single, whole, _⟩ => kept ⟨lists, single, whole⟩⟩
  · rintro ⟨⟨isKey, apart⟩, kept⟩
    refine ⟨⟨isKey, fun absorbed => ?_⟩, apart⟩
    exact kept ⟨absorbed.1, absorbed.2.1, absorbed.2.2, needed key isKey absorbed⟩

end Catalogue

namespace Ledger

variable {catalogue : Catalogue} {ledger next : Ledger}

/-- What a role holds is settled where no role holds `all` together with one of its members. -/
theorem Exclusive.settled (exclusive : ledger.Exclusive catalogue)
    (coherent : ledger.Coherent catalogue) (role : String) (key : RecordKey) :
    catalogue.Settled (ledger.HoldsKey role) key ↔ ledger.HoldsKey role key := by
  refine and_iff_left_of_imp fun holds absorbed => ?_
  obtain ⟨lists, single, holdsWhole⟩ := absorbed
  obtain ⟨all, isAll⟩ := (coherent.fits_of_holdsKey holds).all
  obtain ⟨member, isMember, same⟩ :=
    lists.exists_member (coherent.fits_of_holdsKey holds) single isAll
  refine exclusive role key all member isAll isMember holdsWhole ?_
  rw [same]
  exact holds

/-- When a key is given to a role whose keys are settled, they are settled together with the new
one. -/
theorem Granted.settled (registered : catalogue.Registered) {name : String} {key : RecordKey}
    {all : Action} (granted : Granted catalogue ledger name key all next)
    (isAll : catalogue.all key.component = .ok all) (lists : catalogue.ListsAll key.component)
    {keys : RecordKey → Prop} (fit : ∀ other, keys other → catalogue.Fits other)
    (settled : ∀ other, ledger.HoldsKey name other ↔ catalogue.Settled keys other)
    (other : RecordKey) :
    next.HoldsKey name other ↔
      catalogue.Settled (fun held => keys held ∨ held = key) other := by
  rw [Catalogue.Settled, Catalogue.absorbed_add]
  cases granted with
  | whole forAll becomes =>
    -- The keys that give way to the new one are those for the members that are taken away.
    have givesWay : keys other → ((∃ member ∈ all.members, other = key.withAction member.name) ↔
        catalogue.ListsAll other.component ∧ other.action ≠ Action.allName ∧
          other.withAction Action.allName = key) := by
      intro isKey
      constructor
      · rintro ⟨member, isMember, rfl⟩
        refine ⟨lists, (registered.resolve_member (StoreError.lift_eq_ok.1 isAll) isMember).2, ?_⟩
        rw [RecordKey.withAction_withAction, ← forAll, RecordKey.withAction_self]
      · rintro ⟨otherLists, single, rfl⟩
        obtain ⟨member, isMember, same⟩ :=
          otherLists.exists_member (fit other isKey) single isAll
        exact ⟨member, isMember, by rw [same]; rfl⟩
    rw [becomes.holdsKey, settled]
    constructor
    · rintro (⟨⟨isKey, kept⟩, others⟩ | ⟨-, rfl⟩)
      · refine ⟨Or.inl isKey, not_or.2 ⟨kept, fun gives => others ⟨rfl, ?_⟩⟩⟩
        exact (givesWay isKey).2 gives
      · exact ⟨Or.inr rfl, not_or.2 ⟨fun absorbed => absorbed.2.1 forAll,
          fun gives => gives.2.1 forAll⟩⟩
    · rintro ⟨isKey | rfl, kept⟩
      · obtain ⟨kept, stays⟩ := not_or.1 kept
        exact Or.inl ⟨⟨isKey, kept⟩, fun lost => stays ((givesWay isKey).1 lost.2)⟩
      · exact Or.inr ⟨rfl, rfl⟩
  | needless single holds =>
    have nothing : other.withAction Action.allName ≠ key := fun gives =>
      single (RecordKey.action_eq_of_withAction gives)
    have absorbed : catalogue.Absorbed keys key := ⟨lists, single, ((settled _).1 holds).1⟩
    rw [settled]
    constructor
    · rintro ⟨isKey, kept⟩
      exact ⟨Or.inl isKey, not_or.2 ⟨kept, fun gives => nothing gives.2.2⟩⟩
    · rintro ⟨isKey | rfl, kept⟩
      · exact ⟨isKey, (not_or.1 kept).1⟩
      · exact absurd (Or.inl absorbed) kept
  | added single lacking becomes =>
    have nothing : other.withAction Action.allName ≠ key := fun gives =>
      single (RecordKey.action_eq_of_withAction gives)
    have stays : ¬catalogue.Absorbed keys key := fun absorbed =>
      lacking ((settled _).2 ⟨absorbed.2.2, fun again => again.2.1 rfl⟩)
    rw [becomes.holdsKey, settled]
    constructor
    · rintro (⟨isKey, kept⟩ | ⟨-, rfl⟩)
      · exact ⟨Or.inl isKey, not_or.2 ⟨kept, fun gives => nothing gives.2.2⟩⟩
      · exact ⟨Or.inr rfl, not_or.2 ⟨stays, fun gives => nothing gives.2.2⟩⟩
    · rintro ⟨isKey | rfl, kept⟩
      · exact Or.inl ⟨isKey, (not_or.1 kept).1⟩
      · exact Or.inr ⟨rfl, rfl⟩

end Ledger

end Entitlement
