/-
This file proves that no role ever holds `all` together with one of its members for the same
key. The tables themselves would allow it; it is the edits that see to it, each in its own way.
Granting `all` takes the members away and granting a member looks for `all` first. Revoking a
member from `all` gives out the others without such a look, which is safe because `all` is gone
by then, and moving a record is a revocation and a grant. All of them are chains of two deeds, so
it is enough to look at these.
-/

import Entitlement.Proofs.Reachable

namespace Entitlement

/-! ### Keys that differ in their actions -/

namespace RecordKey

@[simp] theorem withAction_withAction (key : RecordKey) (first second : String) :
    (key.withAction first).withAction second = key.withAction second :=
  rfl

@[simp] theorem withAction_self (key : RecordKey) : key.withAction key.action = key :=
  rfl

theorem action_eq_of_withAction {key other : RecordKey} {action : String}
    (same : key.withAction action = other) : other.action = action := by
  rw [← same]
  rfl

/-- Keys that are the same for one action are the same for each. -/
theorem withAction_congr {key other : RecordKey} {action another : String}
    (same : key.withAction action = other.withAction another) (name : String) :
    key.withAction name = other.withAction name := by
  rw [← withAction_withAction key action, same, withAction_withAction]

end RecordKey

namespace Ledger

variable {catalogue : Catalogue} {ledger next : Ledger}

/-- No role holds the key for `all` together with the same key for a member of `all`. -/
def Exclusive (catalogue : Catalogue) (ledger : Ledger) : Prop :=
  ∀ (role : String) (key : RecordKey) (all member : Action),
    catalogue.all key.component = .ok all → member ∈ all.members →
      ledger.HoldsKey role (key.withAction Action.allName) →
        ¬ledger.HoldsKey role (key.withAction member.name)

/-- Holding fewer keys does no harm. -/
theorem Exclusive.mono (exclusive : ledger.Exclusive catalogue)
    (fewer : ∀ role key, next.HoldsKey role key → ledger.HoldsKey role key) :
    next.Exclusive catalogue :=
  fun role key all member isAll isMember holdsWhole holdsPart =>
    exclusive role key all member isAll isMember (fewer _ _ holdsWhole) (fewer _ _ holdsPart)

/-! ### The two deeds -/

theorem Exclusive.granted (exclusive : ledger.Exclusive catalogue)
    (registered : catalogue.Registered) {name : String} {key : RecordKey} {all : Action}
    (isAll : catalogue.all key.component = .ok all)
    (granted : Granted catalogue ledger name key all next) : next.Exclusive catalogue := by
  intro role other whole member isWhole isMember holdsWhole holdsPart
  have memberName := (registered.resolve_member (StoreError.lift_eq_ok.1 isWhole) isMember).2
  cases granted with
  | needless _ _ => exact exclusive role other whole member isWhole isMember holdsWhole holdsPart
  | whole forAll becomes =>
    rw [becomes.holdsKey] at holdsWhole holdsPart
    rcases holdsPart with ⟨heldPart, kept⟩ | ⟨-, new⟩
    · rcases holdsWhole with ⟨heldWhole, -⟩ | ⟨rfl, new⟩
      · exact exclusive role other whole member isWhole isMember heldWhole heldPart
      · -- The members of the key for `all` were taken away just before it was given.
        subst new
        obtain rfl : whole = all := Except.ok.inj (isWhole.symm.trans isAll)
        exact kept ⟨rfl, member, isMember, rfl⟩
    · rw [RecordKey.action_eq_of_withAction new] at forAll
      exact memberName forAll
  | added single lacking becomes =>
    rw [becomes.holdsKey] at holdsWhole holdsPart
    rcases holdsWhole with heldWhole | ⟨-, new⟩
    · rcases holdsPart with heldPart | ⟨rfl, new⟩
      · exact exclusive role other whole member isWhole isMember heldWhole heldPart
      · rw [← new, RecordKey.withAction_withAction] at lacking
        exact lacking heldWhole
    · exact single (RecordKey.action_eq_of_withAction new)

theorem Exclusive.revoked (exclusive : ledger.Exclusive catalogue)
    (registered : catalogue.Registered) {name : String}
    (revoked : Revoked catalogue ledger name next) : next.Exclusive catalogue := by
  cases revoked with
  | kept => exact exclusive
  | lost key becomes =>
    exact exclusive.mono fun role other holds => ((becomes.holdsKey role other).1 holds).1
  | @replaced _ key all left forAll isAll members becomes =>
    intro role other whole member isWhole isMember holdsWhole holdsPart
    rw [becomes.holdsKey] at holdsWhole holdsPart
    rcases holdsWhole with ⟨heldWhole, kept⟩ | ⟨-, rest, isLeft, new⟩
    · rcases holdsPart with ⟨heldPart, -⟩ | ⟨rfl, rest, isLeft, new⟩
      · exact exclusive role other whole member isWhole isMember heldWhole heldPart
      · -- What is left of the key for `all` was given out after the role had lost that key.
        refine kept ⟨rfl, ?_⟩
        rw [RecordKey.withAction_congr new, ← forAll, RecordKey.withAction_self]
    · have restName := (registered.resolve_member (StoreError.lift_eq_ok.1 isAll)
        (members rest isLeft)).2
      exact restName (congrArg RecordKey.action new).symm

theorem Exclusive.deeds (exclusive : ledger.Exclusive catalogue)
    (registered : catalogue.Registered) (deeds : Deeds catalogue ledger next) :
    next.Exclusive catalogue := by
  induction deeds with
  | refl => exact exclusive
  | tail _ deed inductionHypothesis =>
    cases deed with
    | gave _ isAll granted => exact inductionHypothesis.granted registered isAll granted
    | took revoked => exact inductionHypothesis.revoked registered revoked

/-! ### The other operations -/

/-- Of fewer holdings and fewer records come fewer keys. -/
theorem HoldsKey.mono {role : String} {key : RecordKey} (holds : next.HoldsKey role key)
    (holdings : ∀ holding ∈ next.holdings, holding ∈ ledger.holdings)
    (records : ∀ number record, next.record? number = some record →
      ledger.record? number = some record) : ledger.HoldsKey role key := by
  obtain ⟨number, record, member, found, same⟩ := holds
  exact ⟨number, record, holdings _ member, records _ _ found, same⟩

theorem holdsKey_of_createRole {name : String} {now : Timestamp}
    (created : ledger.createRole name now = .ok next) {role : String} {key : RecordKey}
    (holds : next.HoldsKey role key) : ledger.HoldsKey role key := by
  unfold createRole at created
  dsimp only at created
  split at created
  · cases created
  split at created
  · cases created
  · obtain rfl := Except.ok.inj created
    exact holds

theorem holdsKey_of_dropRole {name : String} (dropped : ledger.dropRole name = .ok next)
    {role : String} {key : RecordKey} (holds : next.HoldsKey role key) :
    ledger.HoldsKey role key := by
  obtain ⟨_, -, dropped⟩ := bind_eq_ok.1 dropped
  obtain rfl := pure_eq_ok.1 dropped
  exact holds.mono (fun _ member => (OrderedSet.mem_filter.1 member).1) fun _ _ found => found

theorem holdsKey_of_foldl_linkGroup {name : String} {groups : List String} {now : Timestamp}
    {role : String} {key : RecordKey}
    (holds : (groups.foldl (linkGroup name now) ledger).HoldsKey role key) :
    ledger.HoldsKey role key := by
  induction groups generalizing ledger with
  | nil => exact holds
  | cons group rest inductionHypothesis =>
    have linked : (linkGroup name now ledger group).HoldsKey role key := inductionHypothesis holds
    exact linked

theorem holdsKey_of_addGroups {name : String} {groups : List String} {now : Timestamp}
    (added : ledger.addGroups name groups now = .ok next) {role : String} {key : RecordKey}
    (holds : next.HoldsKey role key) : ledger.HoldsKey role key := by
  obtain ⟨_, -, added⟩ := bind_eq_ok.1 added
  obtain rfl := pure_eq_ok.1 added
  exact holdsKey_of_foldl_linkGroup holds

theorem holdsKey_of_removeGroups {name : String} {groups : List String}
    (removed : ledger.removeGroups name groups = .ok next) {role : String} {key : RecordKey}
    (holds : next.HoldsKey role key) : ledger.HoldsKey role key := by
  obtain ⟨_, -, removed⟩ := bind_eq_ok.1 removed
  dsimp only at removed
  split at removed
  · cases removed
  · obtain rfl := pure_eq_ok.1 removed
    exact holds

theorem holdsKey_of_prune {role : String} {key : RecordKey}
    (holds : ledger.prune.HoldsKey role key) : ledger.HoldsKey role key :=
  holds.mono (fun _ member => member) fun _ _ found => (OrderedMap.get?_filter_eq_some.1 found).1

theorem Exclusive.apply (exclusive : ledger.Exclusive catalogue)
    (registered : catalogue.Registered) (coherent : ledger.Coherent catalogue)
    (operation : Operation) : (operation.apply catalogue ledger).ledger.Exclusive catalogue := by
  unfold Operation.apply
  cases operation with
  | createRole role now =>
    refine Edited.ofResult_keeps _ exclusive fun next done => ?_
    exact exclusive.mono fun role key => holdsKey_of_createRole done
  | dropRole role =>
    refine Edited.ofResult_keeps _ exclusive fun next done => ?_
    exact exclusive.mono fun role key => holdsKey_of_dropRole done
  | addGroups role groups now =>
    refine Edited.ofResult_keeps _ exclusive fun next done => ?_
    exact exclusive.mono fun role key => holdsKey_of_addGroups done
  | removeGroups role groups =>
    refine Edited.ofResult_keeps _ exclusive fun next done => ?_
    exact exclusive.mono fun role key => holdsKey_of_removeGroups done
  | grant => exact exclusive.deeds registered (coherent.deeds_grant registered ..)
  | revoke => exact exclusive.deeds registered (coherent.deeds_revoke registered ..)
  | drop => exact exclusive.deeds registered (coherent.deeds_drop registered ..)
  | rename => exact exclusive.deeds registered (coherent.deeds_rename registered ..)
  | prune => exact exclusive.mono fun role key => holdsKey_of_prune

/-- In every reachable ledger, no role holds `all` together with one of its members for the same
key. -/
theorem reachable_exclusive (registered : catalogue.Registered)
    (reached : Reachable catalogue ledger) : ledger.Exclusive catalogue := by
  induction reached with
  | empty => exact fun _ _ _ _ _ _ ⟨_, _, member, _⟩ => absurd member (OrderedSet.not_mem_empty _)
  | apply reached operation inductionHypothesis =>
    exact inductionHypothesis.apply registered (reached.coherent registered) operation

/-- A role that was granted a member of `all` and then `all` holds only the latter. -/
theorem reachable_exclusive_library :
    ∃ ledger : Ledger, Reachable Catalogue.library ledger ∧
      ledger.records.entries.map (fun entry => (entry.1, entry.2.key.action)) =
        [(1, "read"), (2, "all")] ∧
      ledger.holdings.elements = [⟨"clerks", 2⟩] ∧ ledger.Exclusive Catalogue.library := by
  let named := (Operation.createRole "Clerks" default).apply Catalogue.library empty
  let reading := (Operation.grant "Clerks" (libraryPrivilege "read") "olga" default).apply
    Catalogue.library named.ledger
  let whole := (Operation.grant "Clerks" (libraryPrivilege "all") "olga" default).apply
    Catalogue.library reading.ledger
  have reached : Reachable Catalogue.library whole.ledger := .apply (.apply (.apply .empty _) _) _
  refine ⟨whole.ledger, reached, ?_, ?_, reachable_exclusive Catalogue.registered_library reached⟩
  · decide +kernel
  · decide +kernel

end Ledger

end Entitlement
