/-
This file says key by key what a revocation leaves to a role. The keys that the privilege does not
include stay, and so do those for other single actions; a key for `all` gives way to the keys for
the other members of `all`. Some of these may be included themselves. They stay all the same, since
the records to be looked at were chosen before any key was given out, and since none of them is for
the action that was revoked.
-/

import Entitlement.Proofs.Renaming
import Entitlement.Proofs.Revoking

namespace Entitlement

/-! ### What a target includes -/

/-- Whether a key is of the component and the service of the target, has its grant option if it
says one, and is for its path or for one below it. -/
structure Target.Includes (target : Target) (catalogue : Catalogue) (key : RecordKey) : Prop where
  component : key.component = target.component
  service : key.service = target.service
  option : ∀ option, target.grantOption = some option → key.grantOption = some option
  path : ∃ steps, catalogue.decode key.component key.path = .ok steps ∧
    target.steps.isPrefixOf steps = true

namespace Target

variable {catalogue : Catalogue} {target : Target}

theorem agrees_iff {key : RecordKey} : target.agrees key = true ↔
    key.component = target.component ∧ key.service = target.service ∧
      ∀ option, target.grantOption = some option → key.grantOption = some option := by
  unfold agrees
  rw [Bool.and_eq_true, Bool.and_eq_true, beq_iff_eq, beq_iff_eq, and_assoc]
  refine and_congr_right fun _ => and_congr_right fun _ => ?_
  cases target.grantOption with
  | none => simp
  | some option => simp

theorem includes_iff {key : RecordKey} :
    target.includes catalogue key = .ok true ↔ target.Includes catalogue key := by
  rw [Catalogue.includes_eq_ok_true, agrees_iff]
  constructor
  · rintro ⟨⟨component, service, option⟩, path⟩
    exact ⟨component, service, option, path⟩
  · rintro ⟨component, service, option, path⟩
    exact ⟨⟨component, service, option⟩, path⟩

/-- What a target includes does not depend on actions. -/
theorem Includes.withAction {key : RecordKey} (includes : target.Includes catalogue key)
    (action : String) : target.Includes catalogue (key.withAction action) :=
  ⟨includes.component, includes.service, includes.option, includes.path⟩

end Target

namespace Ledger

variable {catalogue : Catalogue} {ledger : Ledger}

/-! ### What a revocation leaves -/

/-- Whether a role has the key when the action, and not another one, was taken from what it held
under the target. -/
def LeftBy (catalogue : Catalogue) (target : Target) (all action : Action)
    (held : RecordKey → Prop) (key : RecordKey) : Prop :=
  (held key ∧ ¬target.Includes catalogue key) ∨
    (action.name ≠ Action.allName ∧
      ((held key ∧ target.Includes catalogue key ∧ key.action ≠ action.name ∧
          key.action ≠ Action.allName) ∨
        ∃ whole, held whole ∧ target.Includes catalogue whole ∧ whole.action = Action.allName ∧
          ∃ member ∈ all.members, member.name ≠ action.name ∧
            key = whole.withAction member.name))

/-- What is kept of the keys of one role when the chosen ones are those under a target. -/
theorem retained_iff_leftBy {target : Target} {all action : Action} {role : String}
    (isAll : catalogue.all target.component = .ok all) {held chosen : String → RecordKey → Prop}
    (isChosen : ∀ key, chosen role key ↔ held role key ∧ target.Includes catalogue key)
    (key : RecordKey) :
    catalogue.Retained action held chosen role key ↔
      LeftBy catalogue target all action (held role) key := by
  unfold Catalogue.Retained Catalogue.Replaces LeftBy RecordKey.Yields
  simp only [isChosen, RecordKey.mem_leftActions]
  constructor
  · rintro (⟨isHeld, kept⟩ | ⟨whole, ⟨isHeld, includes⟩, other, isOther, member, left, rfl⟩)
    · by_cases includes : target.Includes catalogue key
      · have stays := fun yields => kept ⟨⟨isHeld, includes⟩, yields⟩
        exact Or.inr ⟨fun same => stays (Or.inl same), Or.inl ⟨isHeld, includes,
          fun same => stays (Or.inr (Or.inr same)), fun same => stays (Or.inr (Or.inl same))⟩⟩
      · exact Or.inl ⟨isHeld, includes⟩
    · obtain ⟨forAll, single, isMember, apart⟩ := left
      rw [includes.component, isAll] at isOther
      obtain rfl : all = other := Except.ok.inj isOther
      exact Or.inr ⟨single, Or.inr ⟨whole, isHeld, includes, forAll, member, isMember, apart, rfl⟩⟩
  · rintro (⟨isHeld, outside⟩ | ⟨single, ⟨isHeld, -, apart, notWhole⟩ |
      ⟨whole, isHeld, includes, forAll, member, isMember, apart, rfl⟩⟩)
    · exact Or.inl ⟨isHeld, fun both => outside both.1.2⟩
    · refine Or.inl ⟨isHeld, ?_⟩
      rintro ⟨-, isWhole | isWhole | same⟩
      · exact single isWhole
      · exact notWhole isWhole
      · exact apart same
    · exact Or.inr ⟨whole, ⟨isHeld, includes⟩, all, includes.component ▸ isAll, member,
        ⟨forAll, single, isMember, apart⟩, rfl⟩

/-- A revocation whose role exists and whose privilege can be stored comes to its end. It leaves the
role the keys that the privilege does not include and, unless it is for `all`, those for other
single actions and for the other members of `all`; it leaves everything else as it was. -/
theorem revoke_leaves {role : String} {privilege : Privilege} {stored : RecordKey}
    (registered : catalogue.Registered) (reached : Reachable catalogue ledger)
    (known : ledger.hasRole role = true) (keyed : catalogue.toKey privilege = .ok stored)
    (grantor : String) (now : Timestamp) :
    ∃ all action next, catalogue.all privilege.component = .ok all ∧
      catalogue.resolve privilege.component privilege.action = .ok action ∧
      ledger.revoke catalogue role privilege grantor now = ⟨next, none⟩ ∧
      (∀ key, next.HoldsKey (Text.normalize role) key ↔
        LeftBy catalogue (Target.ofPrivilege privilege) all action
          (ledger.HoldsKey (Text.normalize role)) key) ∧
      (∀ other, other ≠ Text.normalize role → ∀ key,
        next.HoldsKey other key ↔ ledger.HoldsKey other key) ∧
      next.roles = ledger.roles ∧ next.groups = ledger.groups ∧
      next.groupLinks = ledger.groupLinks := by
  obtain ⟨action, path, resolved, encoded, -⟩ := Catalogue.toKey_eq_ok.1 keyed
  obtain ⟨all, isAll⟩ := Vocabularies.all_of_resolve (StoreError.lift_eq_ok.1 resolved)
  have isAll : catalogue.all (Target.ofPrivilege privilege).component = .ok all :=
    StoreError.lift_eq_ok.2 isAll
  obtain ⟨next, revoked, becomes⟩ := (reached.coherent registered).revoke_becomes registered known
    resolved encoded grantor now
  refine ⟨all, action, next, isAll, resolved, revoked, fun key => ?_, fun other apart key => ?_,
    becomes.grows.roles, becomes.grows.groups, becomes.grows.groupLinks⟩
  · rw [becomes.holdsKey]
    refine retained_iff_leftBy isAll (fun held => ?_) key
    rw [Target.includes_iff]
    simp
  · rw [becomes.holdsKey]
    unfold Catalogue.Retained
    simp [apart]

/-- A role may do everything on one shelf, may mend a book of it and read on another shelf. When it
may no longer read on the first one it may lend there, and the rest stays. -/
theorem revoke_leaves_library :
    ∃ ledger next : Ledger, Reachable Catalogue.library ledger ∧
      (ledger.records.entries.map fun entry => (entry.1, entry.2.key.action)) =
        [(1, "all"), (2, "mend"), (3, "read")] ∧
      ledger.holdings.elements = [⟨"clerks", 1⟩, ⟨"clerks", 2⟩, ⟨"clerks", 3⟩] ∧
      ledger.revoke Catalogue.library "Clerks" (libraryPrivilege "read") "olga" default =
        ⟨next, none⟩ ∧
      (next.records.entries.map fun entry => (entry.1, entry.2.key.action)) =
        [(1, "all"), (2, "mend"), (3, "read"), (4, "lend")] ∧
      next.holdings.elements = [⟨"clerks", 2⟩, ⟨"clerks", 3⟩, ⟨"clerks", 4⟩] ∧
      ∀ key, next.HoldsKey "clerks" key ↔
        LeftBy Catalogue.library (Target.ofPrivilege (libraryPrivilege "read"))
          (.compound "all" [.base "read", .base "lend"]) (.base "read")
          (ledger.HoldsKey "clerks") key := by
  let mending : Privilege :=
    { libraryPrivilege "mend" with steps := [⟨"shelf", "a"⟩, ⟨"book", "b"⟩] }
  let named := (Operation.createRole "Clerks" default).apply Catalogue.library empty
  let whole := (Operation.grant "Clerks" (libraryPrivilege "all") "olga" default).apply
    Catalogue.library named.ledger
  let mended := (Operation.grant "Clerks" mending "olga" default).apply Catalogue.library
    whole.ledger
  let reading := (Operation.grant "Clerks" (libraryReading [⟨"shelf", "c"⟩]) "olga" default).apply
    Catalogue.library mended.ledger
  have reached : Reachable Catalogue.library reading.ledger :=
    .apply (.apply (.apply (.apply .empty _) _) _) _
  have known : reading.ledger.hasRole "Clerks" = true := by decide +kernel
  obtain ⟨all, action, next, isAll, resolved, revoked, leaves, -⟩ := revoke_leaves
    Catalogue.registered_library reached known
    (show Catalogue.library.toKey (libraryPrivilege "read") = .ok _ from rfl) "olga" default
  obtain rfl : Action.compound "all" [.base "read", .base "lend"] = all := Except.ok.inj isAll
  obtain rfl : Action.base "read" = action := Except.ok.inj resolved
  have isNext : (reading.ledger.revoke Catalogue.library "Clerks" (libraryPrivilege "read") "olga"
      default).ledger = next := congrArg Edited.ledger revoked
  subst isNext
  refine ⟨reading.ledger, _, reached, ?_, ?_, revoked, ?_, ?_, leaves⟩
  · decide +kernel
  · decide +kernel
  · decide +kernel
  · decide +kernel

end Ledger

end Entitlement
