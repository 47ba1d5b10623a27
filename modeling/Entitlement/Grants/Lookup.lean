/-
This file finds privileges in a ledger. What a target includes is the records of its component
and service, with its grant option when it says one, at its path or below; revoking, dropping,
renaming and the query of a service all work on these records.
-/

import Entitlement.Catalogue

namespace Entitlement

/-- What the records that are looked for have in common. -/
structure Target where
  component : String
  service : String
  /-- The grant option, when only records with that one are meant. -/
  grantOption : Option Bool
  steps : List Step

namespace Target

def ofPrivilege (privilege : Privilege) : Target where
  component := privilege.component
  service := privilege.service
  grantOption := privilege.grantOption
  steps := privilege.steps

/-- All records of a service at a path or below, whatever their grant option. -/
def ofService (component service : String) (steps : List Step) : Target where
  component := Text.lower (Text.trim component)
  service := Text.lower (Text.trim service)
  grantOption := none
  steps := steps.map Step.lowered

/-- Whether a key has the component, the service and the grant option of the target. -/
def agrees (target : Target) (key : RecordKey) : Bool :=
  key.component == target.component && key.service == target.service &&
    (target.grantOption.isNone || key.grantOption == target.grantOption)

/-- Whether a key is included in the target. -/
def includes (target : Target) (catalogue : Catalogue) (key : RecordKey) :
    Except StoreError Bool :=
  if target.agrees key then
    (catalogue.decode key.component key.path).map fun steps => target.steps.isPrefixOf steps
  else .ok false

end Target

namespace Ledger

/-- The records held by any of the roles, or all records, with their numbers in order. -/
def candidates (ledger : Ledger) (roles : Option (OrderedSet String)) : List (Nat × Record) :=
  match roles with
  | none => ledger.records.entries
  | some roles =>
    (ledger.recordsOfRoles roles).elements.filterMap fun number =>
      (ledger.record? number).map fun record => (number, record)

/-- The records among the candidates that the target includes. -/
def included (ledger : Ledger) (catalogue : Catalogue) (target : Target)
    (roles : Option (OrderedSet String)) : Except StoreError (List (Nat × Record)) :=
  (ledger.candidates roles).filterM fun entry => target.includes catalogue entry.2.key

/-- Every pair of an included record and a role that holds it, by record and then by role. -/
def includedHoldings (ledger : Ledger) (catalogue : Catalogue) (target : Target) :
    Except StoreError (List Holding) :=
  (ledger.included catalogue target none).map fun entries =>
    entries.flatMap fun entry => (ledger.holdersOf entry.1).map fun role => ⟨role, entry.1⟩

/-- The privileges held by any of the roles. The names are taken as given. -/
def privilegesOfRoles (ledger : Ledger) (catalogue : Catalogue) (roles : OrderedSet String) :
    Except StoreError (List Privilege) :=
  catalogue.ofRecords ((ledger.candidates (some roles)).map Prod.snd)

/-- The privileges of a service at a path or below, of the given roles or of all. -/
def privilegesOfService (ledger : Ledger) (catalogue : Catalogue) (component service : String)
    (roles : Option (OrderedSet String)) (steps : List Step) :
    Except StoreError (List Privilege) := do
  let entries ← ledger.included catalogue (Target.ofService component service steps) roles
  catalogue.ofRecords (entries.map Prod.snd)

end Ledger

end Entitlement
