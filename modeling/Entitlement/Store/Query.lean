/-
This file holds the queries of a store. Each looks at the ledger in a reading transaction of
its own and changes nothing.
-/

import Entitlement.Store.Basic

namespace Entitlement.Store

/-- What a query finds in the ledger that a reading transaction shows. -/
def ask {Answer : Type} (store : Store) (query : Ledger → Except StoreError Answer) :
    Except StoreError Answer := do
  let _ ← store.vault.beginRead
  query store.vault.committed

/-- The roles that any of the groups belongs to. -/
def rolesOfGroups (store : Store) (groups : List String) :
    Except StoreError (OrderedSet String) :=
  store.ask fun ledger => .ok (ledger.rolesOfGroups groups)

/-- The groups that belong to any of the roles. -/
def groupsOfRoles (store : Store) (roles : List String) : Except StoreError (OrderedSet String) :=
  store.ask fun ledger => .ok (ledger.groupsOfRoles roles)

/-- The privileges held by any of the roles. -/
def privilegesOfRoles (store : Store) (roles : List String) : Except StoreError (List Privilege) :=
  store.ask fun ledger => ledger.privilegesOfRoles store.catalogue (normalizeAll roles)

/-- The roles that a query by names is about: all when it gives no names, or else the existing
ones among the named roles and the roles of the named groups. -/
def namedRoles (ledger : Ledger) (roles groups : List String) : Option (OrderedSet String) :=
  if roles.isEmpty && groups.isEmpty then none
  else some (((normalizeAll roles).filter ledger.hasRole).union (ledger.rolesOfGroups groups))

/-- The privileges of a service at a path or below, held by the named roles and the roles of
the named groups, or by any role when no names are given. -/
def privilegesOfService (store : Store) (component service : String)
    (roles groups : List String) (steps : List Step) : Except StoreError (List Privilege) :=
  store.ask fun ledger =>
    match namedRoles ledger roles groups with
    | none => ledger.privilegesOfService store.catalogue component service none steps
    | some named =>
      if named.isEmpty then .ok []
      else ledger.privilegesOfService store.catalogue component service (some named) steps

end Entitlement.Store
