/-
This file holds the ledger: all roles, groups and privilege records of a store and the two
relations that link roles to groups and to records. A link is a row of its own, so that adding
or removing one never touches another. Names are normalized on their way in.
-/

import Entitlement.Hierarchy
import Entitlement.Ordered.Set
import Entitlement.StoreError
import Entitlement.Text.Name
import Entitlement.Timestamp

namespace Entitlement

/-! ### Rows -/

/-- A role or a group, and when it came into being. -/
structure NameRow where
  name : String
  createdAt : Timestamp
deriving DecidableEq

/-- The fields that make two records the same privilege. -/
structure RecordKey where
  component : String
  service : String
  action : String
  scope : String
  grantOption : Option Bool
  path : StoredPath
deriving DecidableEq

/-- The key of the same privilege for another action. -/
def RecordKey.withAction (key : RecordKey) (action : String) : RecordKey :=
  { key with action := action }

/-- A privilege as it is stored. -/
structure Record where
  key : RecordKey
  /-- Who granted the privilege first. -/
  grantor : String
  createdAt : Timestamp
deriving DecidableEq

/-- A group that belongs to a role. -/
structure GroupLink where
  role : String
  group : String
deriving DecidableEq

/-- A record that a role holds. -/
structure Holding where
  role : String
  record : Nat
deriving DecidableEq

instance : Ord GroupLink :=
  ⟨compareLex (compareOn GroupLink.role) (compareOn GroupLink.group)⟩

instance : Std.TransOrd GroupLink :=
  inferInstanceAs (Std.TransCmp (compareLex _ _))

instance : Std.LawfulEqOrd GroupLink where
  eq_of_compare {left right} same := by
    have parts := compareLex_eq_eq.1 same
    cases left
    cases right
    cases Std.LawfulEqOrd.eq_of_compare parts.1
    cases Std.LawfulEqOrd.eq_of_compare parts.2
    rfl

instance : Ord Holding :=
  ⟨compareLex (compareOn Holding.role) (compareOn Holding.record)⟩

instance : Std.TransOrd Holding :=
  inferInstanceAs (Std.TransCmp (compareLex _ _))

instance : Std.LawfulEqOrd Holding where
  eq_of_compare {left right} same := by
    have parts := compareLex_eq_eq.1 same
    cases left
    cases right
    cases Std.LawfulEqOrd.eq_of_compare parts.1
    cases Std.LawfulEqOrd.eq_of_compare parts.2
    rfl

/-- The normalized forms of several names. -/
def normalizeAll (names : List String) : OrderedSet String :=
  OrderedSet.ofList (names.map Text.normalize)

/-! ### The ledger -/

structure Ledger where
  roles : OrderedMap String NameRow
  groups : OrderedMap String NameRow
  groupLinks : OrderedSet GroupLink
  records : OrderedMap Nat Record
  holdings : OrderedSet Holding
  /-- The highest number that a record was ever given. Numbers are words of 64 bits, and what is
  said of ledgers holds up to the last of these. -/
  lastRecord : Nat
deriving DecidableEq

namespace Ledger

def empty : Ledger where
  roles := OrderedMap.empty
  groups := OrderedMap.empty
  groupLinks := OrderedSet.empty
  records := OrderedMap.empty
  holdings := OrderedSet.empty
  lastRecord := 0

instance : Inhabited Ledger := ⟨empty⟩

/-! ### Roles and groups -/

def role? (ledger : Ledger) (role : String) : Option NameRow :=
  ledger.roles.get? (Text.normalize role)

def hasRole (ledger : Ledger) (role : String) : Bool :=
  ledger.roles.contains (Text.normalize role)

/-- The normalized name of a role that must exist. -/
def requireRole (ledger : Ledger) (role : String) : Except StoreError String :=
  let name := Text.normalize role
  if ledger.roles.contains name then .ok name else .error (.noSuchObject ("role " ++ name))

def createRole (ledger : Ledger) (role : String) (now : Timestamp) : Except StoreError Ledger :=
  let name := Text.normalize role
  if name.isEmpty then .error (.invalidInput "role name must not be blank")
  else if ledger.roles.contains name then .error (.alreadyExists ("role " ++ name))
  else .ok { ledger with roles := ledger.roles.insert name ⟨name, now⟩ }

/-- The ledger without a role and its links. Records that no role holds any more stay until
the ledger is pruned. -/
def dropRole (ledger : Ledger) (role : String) : Except StoreError Ledger := do
  let name ← ledger.requireRole role
  return { ledger with
    roles := ledger.roles.erase name
    groupLinks := ledger.groupLinks.filter fun link => link.role != name
    holdings := ledger.holdings.filter fun holding => holding.role != name }

/-- The ledger with a group that belongs to the role, new or not. -/
def linkGroup (role : String) (now : Timestamp) (ledger : Ledger) (group : String) : Ledger :=
  { ledger with
    groups :=
      if ledger.groups.contains group then ledger.groups
      else ledger.groups.insert group ⟨group, now⟩
    groupLinks := ledger.groupLinks.insert ⟨role, group⟩ }

def addGroups (ledger : Ledger) (role : String) (groups : List String) (now : Timestamp) :
    Except StoreError Ledger := do
  let name ← ledger.requireRole role
  return (normalizeAll groups).elements.foldl (linkGroup name now) ledger

/-- The ledger without the links of the role to the groups, all of which must exist. -/
def removeGroups (ledger : Ledger) (role : String) (groups : List String) :
    Except StoreError Ledger := do
  let name ← ledger.requireRole role
  let groups := normalizeAll groups
  match groups.elements.find? fun group => !ledger.groups.contains group with
  | some missing => throw (.noSuchObject ("group " ++ missing))
  | none =>
    return { ledger with
      groupLinks := ledger.groupLinks.filter fun link =>
        !(link.role == name && groups.contains link.group) }

/-- The roles that any of the groups belongs to. -/
def rolesOfGroups (ledger : Ledger) (groups : List String) : OrderedSet String :=
  let groups := normalizeAll groups
  OrderedSet.ofList
    ((ledger.groupLinks.elements.filter fun link => groups.contains link.group).map GroupLink.role)

/-- The groups that belong to any of the roles. -/
def groupsOfRoles (ledger : Ledger) (roles : List String) : OrderedSet String :=
  let roles := normalizeAll roles
  OrderedSet.ofList
    ((ledger.groupLinks.elements.filter fun link => roles.contains link.role).map GroupLink.group)

/-! ### Records and holdings -/

/-- The number of the record with exactly this key. -/
def findRecord? (ledger : Ledger) (key : RecordKey) : Option Nat :=
  (ledger.records.entries.find? fun entry => entry.2.key = key).map Prod.fst

def record? (ledger : Ledger) (number : Nat) : Option Record :=
  ledger.records.get? number

/-- The number of the record with this key, and the ledger in which it has one. A new record gets
the number after the last one. No word comes after 2 ^ 64 - 1: a call that gets so far does not
return, or begins again at zero where sums are not checked. Numbers go on here instead. -/
def ensureRecord (ledger : Ledger) (key : RecordKey) (grantor : String) (now : Timestamp) :
    Nat × Ledger :=
  match ledger.findRecord? key with
  | some number => (number, ledger)
  | none =>
    let number := ledger.lastRecord + 1
    (number, { ledger with
      records := ledger.records.insert number ⟨key, grantor, now⟩
      lastRecord := number })

def holds (ledger : Ledger) (role : String) (number : Nat) : Bool :=
  ledger.holdings.contains ⟨Text.normalize role, number⟩

def attach (ledger : Ledger) (role : String) (number : Nat) : Ledger :=
  { ledger with holdings := ledger.holdings.insert ⟨Text.normalize role, number⟩ }

def detach (ledger : Ledger) (role : String) (number : Nat) : Ledger :=
  { ledger with holdings := ledger.holdings.erase ⟨Text.normalize role, number⟩ }

/-- The roles that hold the record. -/
def holdersOf (ledger : Ledger) (number : Nat) : List String :=
  (ledger.holdings.elements.filter fun holding => holding.record == number).map Holding.role

/-- The numbers of the records that any of the roles holds. The names are taken as given. -/
def recordsOfRoles (ledger : Ledger) (roles : OrderedSet String) : OrderedSet Nat :=
  OrderedSet.ofList
    ((ledger.holdings.elements.filter fun holding => roles.contains holding.role).map
      Holding.record)

/-- Whether any role holds the record. -/
def isHeld (ledger : Ledger) (number : Nat) : Bool :=
  ledger.holdings.elements.any fun holding => holding.record == number

/-- The ledger without the records that no role holds. -/
def prune (ledger : Ledger) : Ledger :=
  { ledger with records := ledger.records.filter fun number _ => ledger.isHeld number }

end Ledger

end Entitlement
