/-
This file proves that the records of a ledger are spelled in lower case whenever all privileges that
were ever handed in were made from drafts. A draft is put into lower case when it becomes a
privilege, a rename does the same to the paths it is given, and every other edit takes the names for
its new keys from a key that is stored already or from a vocabulary. Lower case is all that making a
privilege brings about: the blanks around a component or a service stay in its keys.
-/

import Entitlement.Proofs.Drafts
import Entitlement.Proofs.Numbering

namespace Entitlement

/-! ### Keys in lower case -/

/-- A key whose component, service and resource names are in lower case. -/
structure RecordKey.Lowered (key : RecordKey) : Prop where
  component : Text.lower key.component = key.component
  service : Text.lower key.service = key.service
  names : ∀ name ∈ key.path.slots.used, Text.lower name = name

/-- A key in lower case whose action and scope are in lower case too. -/
structure RecordKey.Normal (key : RecordKey) : Prop extends RecordKey.Lowered key where
  action : Text.lower key.action = key.action
  scope : Text.lower key.scope = key.scope

namespace Catalogue

variable {catalogue : Catalogue}

theorem used_of_encode {component : String} {steps : List Step} {path : StoredPath}
    (encoded : catalogue.encode component steps = .ok path) :
    path.slots.used = steps.map Step.name :=
  Hierarchies.used_of_encode (StoreError.lift_eq_ok.1 encoded)

theorem names_of_encode {component : String} {steps : List Step} {path : StoredPath}
    (encoded : catalogue.encode component steps = .ok path) :
    (∀ name ∈ path.slots.used, Text.lower name = name) ↔ steps.map Step.lowered = steps := by
  rw [used_of_encode encoded, List.forall_mem_map, Step.map_lowered_eq_self]

/-- A path whose names are in lower case is found in lower case. -/
theorem map_lowered_of_decode {component : String} {path : StoredPath} {steps : List Step}
    (names : ∀ name ∈ path.slots.used, Text.lower name = name)
    (decoded : catalogue.decode component path = .ok steps) : steps.map Step.lowered = steps := by
  obtain ⟨types, -, rfl⟩ := Hierarchies.decode_eq_ok.1 (StoreError.lift_eq_ok.1 decoded)
  have low : path.slots.used.map Text.lower = path.slots.used :=
    (List.map_congr_left names).trans (List.map_id' _)
  calc (path.slots.used.zipWith (fun name type => Step.mk type name) types).map Step.lowered
      = (path.slots.used.map Text.lower).zipWith (fun name type => Step.mk type name) types := by
        rw [List.map_zipWith, List.zipWith_map_left]
        rfl
    _ = path.slots.used.zipWith (fun name type => Step.mk type name) types := by rw [low]

/-- The key of a privilege in normal form is in lower case. -/
theorem normal_of_toKey (registered : catalogue.Registered) {privilege : Privilege}
    (normal : privilege.Normal) {key : RecordKey} (keyed : catalogue.toKey privilege = .ok key) :
    key.Normal := by
  obtain ⟨action, path, resolved, encoded, rfl⟩ := toKey_eq_ok.1 keyed
  exact {
    component := normal.component
    service := normal.service
    names := (names_of_encode encoded).2 normal.lowered
    action := registered.lower_name (StoreError.lift_eq_ok.1 resolved)
    scope := normal.scope }

/-- Edits make keys in lower case of keys in lower case. -/
theorem keeps_normal (registered : catalogue.Registered) : catalogue.Keeps RecordKey.Normal where
  member normal isAll isLeft := by
    obtain ⟨resolved, -⟩ := registered.resolve_member (StoreError.lift_eq_ok.1 isAll) isLeft
    exact { normal with action := registered.lower_name resolved }
  moved normal decoded encoded := by
    refine { normal with names := (names_of_encode encoded).2 ?_ }
    rw [Ledger.replaceSteps, List.map_append, ← List.map_take, Step.map_lowered_map_lowered,
      List.map_drop, map_lowered_of_decode normal.names decoded]

end Catalogue

namespace Ledger

variable {catalogue : Catalogue} {ledger : Ledger}

/-! ### Privileges made from drafts -/

/-- All keys that roles hold are in lower case. -/
def HoldsLowered (ledger : Ledger) : Prop :=
  ∀ role key, ledger.HoldsKey role key → key.Lowered

/-- Whether the privilege of an operation, if it has one, was made from a draft. -/
def Operation.IsBuilt : Operation → Prop
  | grant _ privilege _ _ => ∃ draft : PrivilegeDraft, draft.build = .ok privilege
  | revoke _ privilege _ _ => ∃ draft : PrivilegeDraft, draft.build = .ok privilege
  | drop privilege _ _ => ∃ draft : PrivilegeDraft, draft.build = .ok privilege
  | _ => True

/-- A ledger that comes out of the empty one by operations in any order, whether they come to
their ends or not, all of whose privileges were made from drafts. -/
inductive Attained (catalogue : Catalogue) : Ledger → Prop where
  | empty : Attained catalogue Ledger.empty
  | apply {ledger : Ledger} (attained : Attained catalogue ledger) (operation : Operation)
      (built : operation.IsBuilt) : Attained catalogue (operation.apply catalogue ledger).ledger

theorem Operation.grants_normal (registered : catalogue.Registered) {operation : Operation}
    (built : operation.IsBuilt) : operation.Grants catalogue RecordKey.Normal := by
  cases operation with
  | grant role privilege grantor now =>
    obtain ⟨draft, built⟩ := built
    exact fun key keyed =>
      Catalogue.normal_of_toKey registered (Privilege.normal_of_build built) keyed
  | _ => trivial

namespace Attained

theorem reachable (attained : Attained catalogue ledger) : Reachable catalogue ledger := by
  induction attained with
  | empty => exact .empty
  | apply _ operation _ inductionHypothesis => exact inductionHypothesis.apply operation

/-- Whatever is stored in an attained ledger is spelled in lower case. -/
theorem keyed (registered : catalogue.Registered) (attained : Attained catalogue ledger) :
    ledger.Keyed RecordKey.Normal := by
  induction attained with
  | empty => exact fun _ _ found => by cases found
  | apply _ operation built inductionHypothesis =>
    exact (operation.follows (Catalogue.keeps_normal registered) inductionHypothesis
      (Operation.grants_normal registered built)).keyed inductionHypothesis

theorem holdsLowered (registered : catalogue.Registered) (attained : Attained catalogue ledger) :
    ledger.HoldsLowered := by
  rintro role key ⟨number, record, -, found, rfl⟩
  exact (attained.keyed registered number record found).toLowered

end Attained

end Ledger

/-! ### What a store commits -/

/-- Every ledger that a store commits comes about by operations whose privileges were made from
drafts. -/
theorem Run.attained {store final : Store} {turns : List Turn}
    (run : Run Vault.KeepsCommitted store turns final)
    (attained : store.vault.committed.Attained store.catalogue) :
    final.vault.committed.Attained store.catalogue := by
  refine run.committed_keeps attained fun mutation requestor now ledger before => ?_
  have built : (mutation.change.operation requestor now).IsBuilt := by
    cases mutation with
    | grant role privilege => exact privilege.property
    | revoke role privilege => exact privilege.property
    | drop privilege => exact privilege.property
    | _ => trivial
  exact (before.apply _ built).apply .prune trivial

end Entitlement
