/-
This file proves that the times at which rows came into being decide nothing. A ledger without them
(`Ledger.undated`) is edited just like the ledger itself: whatever an operation finds, chooses,
refuses or changes is the same, up to the times that it writes. So two ledgers that differ in times
alone stay so when the same is done to both, at whatever times it is done.
-/

import Entitlement.Proofs.Reachable

namespace Entitlement

/-! ### Lists whose items are changed -/

/-- A filter of changed items is the change of what the filter leaves, if the test does not see
the change. -/
theorem filterM_map_eq {Error Item Other : Type} {test : Item → Except Error Bool}
    {otherTest : Other → Except Error Bool} (change : Item → Other)
    (blind : ∀ item, otherTest (change item) = test item) (items : List Item) :
    (items.map change).filterM otherTest = (items.filterM test).map (List.map change) := by
  -- The filter gathers what has passed in an argument, so the induction is on all such lists.
  have steps : ∀ passed, List.filterAuxM otherTest (items.map change) (passed.map change) =
      (List.filterAuxM test items passed).map (List.map change) := by
    induction items with
    | nil => exact fun passed => rfl
    | cons item rest inductionHypothesis =>
      intro passed
      rw [List.map_cons, List.filterAuxM, List.filterAuxM, blind]
      cases test item with
      | error reason => rfl
      | ok passes =>
        cases passes with
        | false => exact inductionHypothesis passed
        | true => exact inductionHypothesis (item :: passed)
  have all := steps []
  unfold List.filterM
  rw [List.map_nil] at all
  rw [all]
  cases List.filterAuxM test items [] with
  | error reason => rfl
  | ok passed => exact congrArg Except.ok List.map_reverse.symm

/-! ### Rows without times -/

def NameRow.undated (row : NameRow) : NameRow :=
  { row with createdAt := default }

def Record.undated (record : Record) : Record :=
  { record with createdAt := default }

/-- The ledger with one time for all rows. -/
def Ledger.undated (ledger : Ledger) : Ledger :=
  { ledger with
    roles := ledger.roles.mapValues NameRow.undated
    groups := ledger.groups.mapValues NameRow.undated
    records := ledger.records.mapValues Record.undated }

def Edited.undated (edited : Edited) : Edited :=
  ⟨edited.ledger.undated, edited.failure⟩

namespace Edited

theorem undated_ofResult (ledger : Ledger) (result : Except StoreError Ledger) :
    (ofResult ledger result).undated = ofResult ledger.undated (result.map Ledger.undated) := by
  cases result <;> rfl

theorem undated_each {Item : Type} {edit undatedEdit : Ledger → Item → Except StoreError Ledger}
    (same : ∀ ledger item, (edit ledger item).map Ledger.undated =
      undatedEdit ledger.undated item)
    (ledger : Ledger) (items : List Item) :
    (each edit ledger items).undated = each undatedEdit ledger.undated items := by
  induction items generalizing ledger with
  | nil => rfl
  | cons item rest inductionHypothesis =>
    rw [each, each, ← same]
    cases edit ledger item with
    | error reason => rfl
    | ok next => exact inductionHypothesis next

end Edited

namespace Ledger

variable (ledger : Ledger)

/-! ### What is found -/

theorem record?_undated (number : Nat) :
    ledger.undated.record? number = (ledger.record? number).map Record.undated :=
  OrderedMap.get?_mapValues ..

theorem findRecord?_undated (key : RecordKey) :
    ledger.undated.findRecord? key = ledger.findRecord? key := by
  show ((ledger.records.entries.map _).find? _).map _ = _
  rw [List.find?_map, Option.map_map]
  rfl

theorem holdsKey_undated (role : String) (key : RecordKey) :
    ledger.undated.holdsKey role key = ledger.holdsKey role key := by
  unfold holdsKey
  rw [findRecord?_undated]
  rfl

theorem containsRole_undated (role : String) :
    ledger.undated.roles.contains role = ledger.roles.contains role :=
  OrderedMap.contains_mapValues ..

theorem containsGroup_undated (group : String) :
    ledger.undated.groups.contains group = ledger.groups.contains group :=
  OrderedMap.contains_mapValues ..

theorem requireRole_undated (role : String) :
    ledger.undated.requireRole role = ledger.requireRole role := by
  unfold requireRole
  simp only [containsRole_undated]

theorem candidates_undated (roles : Option (OrderedSet String)) :
    ledger.undated.candidates roles =
      (ledger.candidates roles).map fun entry => (entry.1, entry.2.undated) := by
  cases roles with
  | none => rfl
  | some roles =>
    unfold candidates
    rw [List.map_filterMap]
    refine List.filterMap_congr fun number _ => ?_
    rw [record?_undated, Option.map_map, Option.map_map]
    rfl

theorem included_undated (catalogue : Catalogue) (target : Target)
    (roles : Option (OrderedSet String)) :
    ledger.undated.included catalogue target roles =
      (ledger.included catalogue target roles).map
        (List.map fun entry => (entry.1, entry.2.undated)) := by
  unfold included
  rw [candidates_undated]
  exact filterM_map_eq _ (fun _ => rfl) _

theorem includedHoldings_undated (catalogue : Catalogue) (target : Target) :
    ledger.undated.includedHoldings catalogue target =
      ledger.includedHoldings catalogue target := by
  unfold includedHoldings
  rw [included_undated]
  cases ledger.included catalogue target none with
  | error reason => rfl
  | ok entries => exact congrArg Except.ok (List.flatMap_map ..)

/-! ### Roles and groups -/

theorem undated_createRole (role : String) (now : Timestamp) :
    (ledger.createRole role now).map undated = ledger.undated.createRole role default := by
  unfold createRole
  simp only [containsRole_undated]
  split
  · rfl
  split
  · rfl
  · refine congrArg Except.ok ?_
    unfold undated
    rw [OrderedMap.mapValues_insert]
    rfl

theorem undated_dropRole (role : String) :
    (ledger.dropRole role).map undated = ledger.undated.dropRole role := by
  unfold dropRole
  rw [map_bind_eq, requireRole_undated]
  refine bind_congr fun name => congrArg Except.ok ?_
  unfold undated
  rw [OrderedMap.mapValues_erase]

theorem undated_linkGroup (role : String) (now : Timestamp) (group : String) :
    (ledger.linkGroup role now group).undated = ledger.undated.linkGroup role default group := by
  have groups : (if ledger.groups.contains group then ledger.groups
      else ledger.groups.insert group ⟨group, now⟩).mapValues NameRow.undated =
      if ledger.groups.contains group then ledger.undated.groups
      else ledger.undated.groups.insert group ⟨group, default⟩ := by
    split
    · rfl
    · exact OrderedMap.mapValues_insert ..
  unfold linkGroup
  rw [containsGroup_undated, ← groups]
  rfl

theorem undated_addGroups (role : String) (groups : List String) (now : Timestamp) :
    (ledger.addGroups role groups now).map undated =
      ledger.undated.addGroups role groups default := by
  unfold addGroups
  rw [map_bind_eq, requireRole_undated]
  refine bind_congr fun name =>
    congrArg Except.ok (List.foldl_hom undated fun current group => ?_).symm
  exact (current.undated_linkGroup name now group).symm

theorem undated_removeGroups (role : String) (groups : List String) :
    (ledger.removeGroups role groups).map undated = ledger.undated.removeGroups role groups := by
  unfold removeGroups
  simp only [map_bind_eq, requireRole_undated, containsGroup_undated]
  refine bind_congr fun name => ?_
  split <;> rfl

theorem undated_prune : ledger.prune.undated = ledger.undated.prune := by
  unfold prune undated
  rw [OrderedMap.mapValues_filter _ _ ledger.isHeld]
  rfl

/-! ### One record -/

theorem undated_ensureRecord (key : RecordKey) (grantor : String) (now : Timestamp) :
    ledger.undated.ensureRecord key grantor default =
      ((ledger.ensureRecord key grantor now).1,
        (ledger.ensureRecord key grantor now).2.undated) := by
  unfold ensureRecord
  rw [findRecord?_undated]
  split
  · rfl
  · refine congrArg (Prod.mk _) ?_
    unfold undated
    rw [OrderedMap.mapValues_insert]
    rfl

theorem undated_withHolding (role : String) (key : RecordKey) (grantor : String)
    (now : Timestamp) :
    (ledger.withHolding role key grantor now).undated =
      ledger.undated.withHolding role key grantor default := by
  unfold withHolding
  rw [undated_ensureRecord ledger key grantor now]
  rfl

theorem undated_withoutActions (role : String) (key : RecordKey) (actions : List Action) :
    (ledger.withoutActions role key actions).undated =
      ledger.undated.withoutActions role key actions := by
  refine (List.foldl_hom undated fun current action => ?_).symm
  rw [findRecord?_undated]
  split <;> rfl

theorem undated_grantKey (catalogue : Catalogue) (role : String) (key : RecordKey)
    (grantor : String) (now : Timestamp) :
    (ledger.grantKey catalogue role key grantor now).map undated =
      ledger.undated.grantKey catalogue role key grantor default := by
  unfold grantKey
  rw [map_bind_eq]
  refine bind_congr fun all => ?_
  rw [map_bind_eq]
  refine bind_congr fun action => ?_
  rw [holdsKey_undated, ← undated_withoutActions, ← undated_withHolding _ role key grantor now,
    ← undated_withHolding ledger role key grantor now]
  split
  · rfl
  split <;> rfl

theorem undated_revokeRecord (catalogue : Catalogue) (role : String) (action : Action)
    (number : Nat) (grantor : String) (now : Timestamp) :
    (ledger.revokeRecord catalogue role action number grantor now).map undated =
      ledger.undated.revokeRecord catalogue role action number grantor default := by
  unfold revokeRecord
  rw [record?_undated]
  cases ledger.record? number with
  | none => rfl
  | some record =>
    dsimp only [Option.map_some]
    rw [map_bind_eq]
    refine bind_congr fun all => ?_
    rw [map_bind_eq]
    refine bind_congr fun held => ?_
    split
    · rfl
    split
    · refine congrArg Except.ok (List.foldl_hom undated fun current left => ?_).symm
      exact (undated_withHolding current role _ grantor now).symm
    split <;> rfl

theorem undated_moveHolding (catalogue : Catalogue) (component : String) (all : Action)
    (replacement : List Step) (now : Timestamp) (holding : Holding) :
    (ledger.moveHolding catalogue component all replacement now holding).map undated =
      ledger.undated.moveHolding catalogue component all replacement default holding := by
  unfold moveHolding
  rw [record?_undated]
  cases ledger.record? holding.record with
  | none => rfl
  | some record =>
    dsimp only [Option.map_some]
    rw [map_bind_eq]
    refine bind_congr fun steps => ?_
    rw [map_bind_eq]
    refine bind_congr fun path => ?_
    rw [map_bind_eq, ← undated_revokeRecord ledger catalogue holding.role all holding.record _ now,
      bind_map_eq]
    exact bind_congr fun between => undated_grantKey between catalogue holding.role _ _ now

/-! ### Operations -/

theorem undated_grant (catalogue : Catalogue) (role : String) (privilege : Privilege)
    (grantor : String) (now : Timestamp) :
    (ledger.grant catalogue role privilege grantor now).undated =
      ledger.undated.grant catalogue role privilege grantor default := by
  unfold grant
  rw [Edited.undated_ofResult, requireRole_undated, map_bind_eq]
  refine congrArg (Edited.ofResult ledger.undated) (bind_congr fun name => ?_)
  rw [map_bind_eq]
  exact bind_congr fun key => undated_grantKey ledger catalogue name key grantor now

theorem undated_revoke (catalogue : Catalogue) (role : String) (privilege : Privilege)
    (grantor : String) (now : Timestamp) :
    (ledger.revoke catalogue role privilege grantor now).undated =
      ledger.undated.revoke catalogue role privilege grantor default := by
  have numbers : ∀ entries : List (Nat × Record),
      (entries.map fun entry => (entry.1, entry.2.undated)).map Prod.fst =
        entries.map Prod.fst := fun entries => List.map_map
  unfold revoke
  simp only [requireRole_undated, included_undated, bind_map_eq, numbers]
  split
  · rfl
  · refine Edited.undated_each (fun current number => ?_) ledger _
    exact undated_revokeRecord current catalogue _ _ number grantor now

theorem undated_drop (catalogue : Catalogue) (privilege : Privilege) (requestor : String)
    (now : Timestamp) :
    (ledger.drop catalogue privilege requestor now).undated =
      ledger.undated.drop catalogue privilege requestor default := by
  unfold drop
  simp only [includedHoldings_undated]
  split
  · rfl
  · refine Edited.undated_each (fun current holding => ?_) ledger _
    exact undated_revokeRecord current catalogue _ _ holding.record requestor now

theorem undated_rename (catalogue : Catalogue) (component service : String) (old new : List Step)
    (now : Timestamp) :
    (ledger.rename catalogue component service old new now).undated =
      ledger.undated.rename catalogue component service old new default := by
  unfold rename
  simp only [includedHoldings_undated]
  split
  · rfl
  · refine Edited.undated_each (fun current holding => ?_) ledger _
    exact undated_moveHolding current catalogue _ _ _ now holding

namespace Operation

/-- The operation at one time for all. -/
def undated : Operation → Operation
  | createRole role _ => createRole role default
  | dropRole role => dropRole role
  | addGroups role groups _ => addGroups role groups default
  | removeGroups role groups => removeGroups role groups
  | grant role privilege grantor _ => grant role privilege grantor default
  | revoke role privilege grantor _ => revoke role privilege grantor default
  | drop privilege requestor _ => drop privilege requestor default
  | rename component service old new _ => rename component service old new default
  | prune => prune

/-- An operation on a ledger without times does what the operation does, up to times. -/
theorem undated_apply (operation : Operation) (catalogue : Catalogue) :
    (operation.apply catalogue ledger).undated =
      operation.undated.apply catalogue ledger.undated := by
  cases operation with
  | createRole role now =>
    rw [apply, Edited.undated_ofResult, undated_createRole]
    rfl
  | dropRole role =>
    rw [apply, Edited.undated_ofResult, undated_dropRole]
    rfl
  | addGroups role groups now =>
    rw [apply, Edited.undated_ofResult, undated_addGroups]
    rfl
  | removeGroups role groups =>
    rw [apply, Edited.undated_ofResult, undated_removeGroups]
    rfl
  | grant role privilege grantor now =>
    exact undated_grant ledger catalogue role privilege grantor now
  | revoke role privilege grantor now =>
    exact undated_revoke ledger catalogue role privilege grantor now
  | drop privilege requestor now => exact undated_drop ledger catalogue privilege requestor now
  | rename component service old new now =>
    exact undated_rename ledger catalogue component service old new now
  | prune => exact congrArg (Edited.mk · none) (undated_prune ledger)

end Operation

/-- Ledgers that differ in times alone still do after operations that differ in times alone, and
neither operation fails where the other does not. -/
theorem apply_of_undated_eq {first second next : Ledger} {early late : Operation}
    (ledgers : second.undated = first.undated) (operations : late.undated = early.undated)
    {catalogue : Catalogue} (done : (early.apply catalogue first).result = .ok next) :
    ∃ other, (late.apply catalogue second).result = .ok other ∧ other.undated = next.undated := by
  have same : (late.apply catalogue second).undated = (early.apply catalogue first).undated := by
    rw [Operation.undated_apply, Operation.undated_apply, ledgers, operations]
  rw [Edited.eq_of_result_eq_ok done] at same
  have ended := congrArg Edited.failure same
  refine ⟨(late.apply catalogue second).ledger, Edited.result_of_isNone ?_,
    congrArg Edited.ledger same⟩
  exact Option.isNone_iff_eq_none.2 ended

end Ledger

end Entitlement
