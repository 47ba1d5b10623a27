/-
This file says how the edits of privileges go about it. An edit of several records comes to the end
to which a fold comes that stops at the first failure, and whatever each of its steps keeps is kept
wherever it stops. The records that it works on are looked up beforehand, by the roles that hold
them or by a target, and what is found is said here in terms of what roles hold.
-/

import Entitlement.Proofs.Coherence

namespace Entitlement

/-! ### Edits that end -/

namespace Edited

theorem eq_of_result_eq_ok {edited : Edited} {next : Ledger} (done : edited.result = .ok next) :
    edited = ⟨next, none⟩ := by
  obtain ⟨ledger, failure⟩ := edited
  cases failure with
  | none =>
    obtain rfl : ledger = next := Except.ok.inj done
    rfl
  | some reason => cases done

theorem result_eq_ok {edited : Edited} {next : Ledger} (done : edited.result = .ok next) :
    edited.ledger = next := by
  rw [eq_of_result_eq_ok done]

theorem result_of_isNone {edited : Edited} (ended : edited.failure.isNone = true) :
    edited.result = .ok edited.ledger := by
  unfold result
  rw [Option.isNone_iff_eq_none.1 ended]

@[simp] theorem result_ofResult (ledger : Ledger) (result : Except StoreError Ledger) :
    (ofResult ledger result).result = result := by
  cases result <;> rfl

/-- An edit that fails before it changes anything comes to the ledger before it or to its result. -/
theorem ofResult_keeps (property : Ledger → Prop) {ledger : Ledger}
    {result : Except StoreError Ledger} (begins : property ledger)
    (keeps : ∀ next, result = .ok next → property next) :
    property (ofResult ledger result).ledger := by
  cases result with
  | ok next => exact keeps next rfl
  | error reason => exact begins

section Each

variable {Item : Type} {edit : Ledger → Item → Except StoreError Ledger}

/-- An edit of items comes to the same end as a fold that may fail. -/
theorem result_each (ledger : Ledger) (items : List Item) :
    (each edit ledger items).result = items.foldlM edit ledger := by
  induction items generalizing ledger with
  | nil => rfl
  | cons item rest inductionHypothesis =>
    rw [each, List.foldlM_cons]
    cases edit ledger item with
    | ok next => exact inductionHypothesis next
    | error reason => rfl

theorem each_of_foldlM {ledger next : Ledger} {items : List Item}
    (folded : items.foldlM edit ledger = .ok next) : each edit ledger items = ⟨next, none⟩ :=
  eq_of_result_eq_ok ((result_each ledger items).trans folded)

/-- What the edit of every single item keeps, an edit of items keeps, wherever it stops. -/
theorem each_keeps (property : Ledger → Prop) {ledger : Ledger} {items : List Item}
    (begins : property ledger)
    (keeps : ∀ item ∈ items, ∀ current next, property current → edit current item = .ok next →
      property next) : property (each edit ledger items).ledger := by
  induction items generalizing ledger with
  | nil => exact begins
  | cons item rest inductionHypothesis =>
    unfold each
    split
    · next next edited =>
      exact inductionHypothesis (keeps item List.mem_cons_self ledger next begins edited)
        fun later member => keeps later (List.mem_cons_of_mem _ member)
    · exact begins

end Each

end Edited

namespace Ledger

variable {catalogue : Catalogue} {ledger : Ledger}

/-! ### What an edit looks for -/

theorem requireRole_eq_ok {role name : String} :
    ledger.requireRole role = .ok name ↔
      ledger.hasRole role = true ∧ Text.normalize role = name := by
  unfold requireRole hasRole
  dsimp only
  split
  · next known => simp [known]
  · next unknown => simp [unknown]

theorem hasRole_normalize (role : String) :
    ledger.hasRole (Text.normalize role) = ledger.hasRole role := by
  unfold hasRole
  rw [Text.normalize_normalize]

theorem Coherent.normalize_of_mem (coherent : ledger.Coherent catalogue) {holding : Holding}
    (member : holding ∈ ledger.holdings) : Text.normalize holding.role = holding.role := by
  obtain ⟨row, found⟩ := OrderedMap.contains_iff.1 (coherent.holding holding member).1
  exact (coherent.role _ row found).2.1

theorem Coherent.hasRole_of_mem (coherent : ledger.Coherent catalogue) {holding : Holding}
    (member : holding ∈ ledger.holdings) : ledger.hasRole holding.role = true := by
  unfold hasRole
  rw [coherent.normalize_of_mem member]
  exact (coherent.holding holding member).1

theorem record?_of_mem_candidates {roles : Option (OrderedSet String)} {entry : Nat × Record}
    (member : entry ∈ ledger.candidates roles) : ledger.record? entry.1 = some entry.2 := by
  cases roles with
  | none => exact OrderedMap.get?_eq_some_iff_mem.2 member
  | some roles =>
    obtain ⟨number, -, found⟩ := List.mem_filterMap.1 member
    obtain ⟨record, stored, rfl⟩ := Option.map_eq_some_iff.1 found
    exact stored

theorem mem_recordsOfRoles {roles : OrderedSet String} {number : Nat} :
    number ∈ ledger.recordsOfRoles roles ↔ ∃ role ∈ roles, ⟨role, number⟩ ∈ ledger.holdings := by
  unfold recordsOfRoles
  rw [OrderedSet.mem_ofList, List.mem_map]
  constructor
  · rintro ⟨holding, member, rfl⟩
    obtain ⟨isHolding, isRole⟩ := List.mem_filter.1 member
    exact ⟨holding.role, OrderedSet.contains_iff.1 isRole, isHolding⟩
  · rintro ⟨role, isRole, member⟩
    exact ⟨⟨role, number⟩, List.mem_filter.2 ⟨member, OrderedSet.contains_iff.2 isRole⟩, rfl⟩

/-- The candidates of several roles are the records that any of them holds. -/
theorem mem_candidates {roles : OrderedSet String} {entry : Nat × Record} :
    entry ∈ ledger.candidates (some roles) ↔ ledger.record? entry.1 = some entry.2 ∧
      ∃ role ∈ roles, ⟨role, entry.1⟩ ∈ ledger.holdings := by
  constructor
  · intro member
    have found := record?_of_mem_candidates member
    obtain ⟨number, isHeld, isEntry⟩ := List.mem_filterMap.1 member
    obtain ⟨record, -, rfl⟩ := Option.map_eq_some_iff.1 isEntry
    exact ⟨found, mem_recordsOfRoles.1 isHeld⟩
  · rintro ⟨found, held⟩
    refine List.mem_filterMap.2 ⟨entry.1, mem_recordsOfRoles.2 held, ?_⟩
    rw [found]
    rfl

/-- What a target includes of a ledger can always be found. -/
theorem Coherent.exists_included (coherent : ledger.Coherent catalogue) (target : Target)
    (roles : Option (OrderedSet String)) :
    ∃ entries, ledger.included catalogue target roles = .ok entries := by
  refine exists_filterM_eq_ok fun entry member => ?_
  unfold Target.includes
  split
  · obtain ⟨steps, decoded, -⟩ :=
      (coherent.fits _ _ (record?_of_mem_candidates member)).path
    exact ⟨_, map_eq_ok.2 ⟨steps, decoded, rfl⟩⟩
  · exact ⟨false, rfl⟩

/-- The included holdings are those of records that the target includes. -/
theorem mem_includedHoldings {target : Target} {holdings : List Holding}
    (included : ledger.includedHoldings catalogue target = .ok holdings) (holding : Holding) :
    holding ∈ holdings ↔ holding ∈ ledger.holdings ∧
      ∃ record, ledger.record? holding.record = some record ∧
        target.includes catalogue record.key = .ok true := by
  obtain ⟨entries, found, rfl⟩ := map_eq_ok.1 included
  constructor
  · intro member
    obtain ⟨entry, isEntry, member⟩ := List.mem_flatMap.1 member
    obtain ⟨role, isHolder, rfl⟩ := List.mem_map.1 member
    obtain ⟨held, isHeld, rfl⟩ := List.mem_map.1 isHolder
    obtain ⟨isHolding, same⟩ := List.mem_filter.1 isHeld
    obtain ⟨candidate, includes⟩ := (mem_filterM_eq_ok found entry).1 isEntry
    have number : held.record = entry.1 := eq_of_beq same
    refine ⟨?_, entry.2, record?_of_mem_candidates candidate, includes⟩
    rw [← number]
    exact isHolding
  · rintro ⟨isHolding, record, stored, includes⟩
    have candidate : (holding.record, record) ∈ ledger.candidates none :=
      OrderedMap.get?_eq_some_iff_mem.1 stored
    refine List.mem_flatMap.2 ⟨(holding.record, record),
      (mem_filterM_eq_ok found _).2 ⟨candidate, includes⟩, List.mem_map.2 ⟨holding.role, ?_, rfl⟩⟩
    exact List.mem_map.2 ⟨holding, List.mem_filter.2 ⟨isHolding, beq_self_eq_true _⟩, rfl⟩

/-- Whether the role holds the key by one of the holdings. -/
def HoldsKeyBy (ledger : Ledger) (holdings : List Holding) (role : String) (key : RecordKey) :
    Prop :=
  ∃ holding ∈ holdings, holding.role = role ∧
    ∃ record, ledger.record? holding.record = some record ∧ record.key = key

theorem holdsKeyBy_cons {holding : Holding} {record : Record}
    (found : ledger.record? holding.record = some record) {rest : List Holding} {role : String}
    {key : RecordKey} : ledger.HoldsKeyBy (holding :: rest) role key ↔
      (role = holding.role ∧ key = record.key) ∨ ledger.HoldsKeyBy rest role key := by
  unfold HoldsKeyBy
  rw [List.exists_mem_cons_iff, found]
  simp [eq_comm]

/-- The keys of the holdings that were chosen for what they are. -/
theorem holdsKeyBy_iff {holdings : List Holding} (passes : String → RecordKey → Prop)
    (chosen : ∀ holding, holding ∈ holdings ↔ holding ∈ ledger.holdings ∧
      ∃ record, ledger.record? holding.record = some record ∧ passes holding.role record.key)
    (role : String) (key : RecordKey) :
    ledger.HoldsKeyBy holdings role key ↔ ledger.HoldsKey role key ∧ passes role key := by
  constructor
  · rintro ⟨holding, member, rfl, record, found, rfl⟩
    obtain ⟨isHolding, same, sameFound, pass⟩ := (chosen holding).1 member
    obtain rfl : record = same := Option.some.inj (found.symm.trans sameFound)
    exact ⟨⟨holding.record, record, isHolding, found, rfl⟩, pass⟩
  · rintro ⟨⟨number, record, isHolding, found, rfl⟩, pass⟩
    exact ⟨⟨role, number⟩, (chosen _).2 ⟨isHolding, record, found, pass⟩, rfl, record, found, rfl⟩

theorem component_of_includes {target : Target} {key : RecordKey}
    (includes : target.includes catalogue key = .ok true) : key.component = target.component := by
  unfold Target.includes at includes
  split at includes
  · next agrees =>
    unfold Target.agrees at agrees
    rw [Bool.and_eq_true, Bool.and_eq_true] at agrees
    exact eq_of_beq agrees.1.1
  · cases includes

end Ledger

end Entitlement
