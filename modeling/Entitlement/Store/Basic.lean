/-
This file holds the store: a vault for the ledger, the catalogue by which it is read, the rules
on who may grant, and the bus on which changes are made known.

Every change runs in one writing transaction. If it fails, nothing has happened. If it is
committed, it gets the next number of the sequence, and an event that carries the number is
published; whether the event can be published makes no difference to the commit.
-/

import Entitlement.Bus.Basic
import Entitlement.Event.Json
import Entitlement.Grants.Delegation
import Entitlement.Grants.Edit
import Entitlement.GroupDirectory
import Entitlement.Settings.Basic
import Entitlement.Vault

namespace Entitlement

/-- Where the groups of a grantor are looked up. -/
inductive GroupSource where
  | listed (directory : GroupDirectory)
  /-- A source that cannot be reached. -/
  | unreachable

namespace GroupSource

/-- The groups of a user. A user whose groups cannot be looked up has none. -/
def groupsOf (source : GroupSource) (user : String) : List String :=
  match source with
  | listed directory => (directory.groupsOf user).elements
  | unreachable => []

end GroupSource

/-- Where events go. -/
inductive Announcer where
  | silent
  /-- A bus on which nothing can be published. -/
  | broken
  | onBus (bus : Bus)

def Announcer.announce (announcer : Announcer) (event : Event) : Announcer :=
  match announcer with
  | onBus bus => .onBus (bus.publish event).2
  | other => other

structure Store where
  vault : Vault
  catalogue : Catalogue
  /-- The normalized names of the groups whose members may grant and revoke everything. -/
  adminGroups : OrderedSet String
  groups : GroupSource
  announcer : Announcer
  server : Uuid
  /-- The number of the last commit, zero before the first. -/
  sequence : Nat

/-- What comes of a call that changes the store: the answer, the store after it, and the event
that was announced, if there was a commit. -/
structure Outcome where
  answer : Except StoreError Commit
  store : Store
  announced : Option Event

namespace Store

/-! ### Opening a store -/

/-- How long a store waits for a transaction when nothing else is said. -/
def defaultPatience : Nat := 30000

/-- A store that knows no grantors and announces nothing. -/
def ofVault (vault : Vault) (catalogue : Catalogue) (server : Uuid) : Store where
  vault := vault
  catalogue := catalogue
  adminGroups := OrderedSet.empty
  groups := .listed GroupDirectory.empty
  announcer := .silent
  server := server
  sequence := 0

/-- The vault that the settings ask for. -/
def vaultOfSettings (settings : Settings) (disk : Disk) : Except StoreError Vault :=
  let patience := 1000 * settings.timeoutSeconds
  match settings.storePath with
  | some path => Vault.ofFile disk path patience
  | none => .ok (Vault.ofLedger Ledger.empty patience disk)

/-- The store that the settings describe. -/
def ofSettings (settings : Settings) (disk : Disk) (server : Uuid) : Except StoreError Store := do
  let catalogue ← settings.catalogue.mapError StoreError.ofSettings
  let vault ← vaultOfSettings settings disk
  return { ofVault vault catalogue server with
    adminGroups := settings.adminGroupSet
    groups := .listed (GroupDirectory.ofList settings.userGroups.entries) }

/-! ### One change -/

/-- A call that changed nothing. -/
def refuse (store : Store) (reason : StoreError) : Outcome :=
  ⟨.error reason, store, none⟩

/-- The store after a commit has been made: its number is counted and its event announced. -/
def conclude (store : Store) (requestor : String) (occasion : Occasion) (change : Change) :
    Outcome :=
  let commit : Commit := ⟨store.server, store.sequence + 1⟩
  let event := change.toEvent commit requestor occasion
  { answer := .ok commit
    store := { store with
      sequence := store.sequence + 1
      announcer := store.announcer.announce event }
    announced := some event }

/-- A change of the ledger in one transaction. -/
def change (store : Store) (requestor : String) (occasion : Occasion) (change : Change)
    (edit : Ledger → Except StoreError Ledger) : Outcome :=
  match store.vault.beginWrite with
  | .error reason => store.refuse reason
  | .ok (number, vault) =>
    match edit vault.committed with
    | .error reason => { store with vault := vault.discard number }.refuse reason
    | .ok ledger =>
      match (vault.edit number ledger.prune).commit number with
      | (vault, some reason) => { store with vault := vault }.refuse reason
      | (vault, none) => { store with vault := vault }.conclude requestor occasion change

/-! ### Roles and groups -/

def createRole (store : Store) (role requestor : String) (occasion : Occasion) : Outcome :=
  let name := Text.normalize role
  store.change requestor occasion (.roleCreated name) fun ledger =>
    ledger.createRole name occasion.now

def dropRole (store : Store) (role requestor : String) (occasion : Occasion) : Outcome :=
  let name := Text.normalize role
  store.change requestor occasion (.roleDropped name) fun ledger => ledger.dropRole name

def addGroups (store : Store) (role : String) (groups : List String) (requestor : String)
    (occasion : Occasion) : Outcome :=
  let name := Text.normalize role
  let groups := (normalizeAll groups).elements
  store.change requestor occasion (.groupsAdded name groups) fun ledger =>
    ledger.addGroups name groups occasion.now

def removeGroups (store : Store) (role : String) (groups : List String) (requestor : String)
    (occasion : Occasion) : Outcome :=
  let name := Text.normalize role
  let groups := (normalizeAll groups).elements
  store.change requestor occasion (.groupsRemoved name groups) fun ledger =>
    ledger.removeGroups name groups

/-! ### Privileges -/

/-- An edit that a grantor wants to make to the privileges of a role, if the role exists and
the grantor may. -/
def delegated (store : Store) (role : String) (privilege : Privilege) (grantor : String)
    (edit : Ledger → Except StoreError Ledger) (ledger : Ledger) : Except StoreError Ledger := do
  let _ ← ledger.requireRole role
  ledger.checkGrantor store.catalogue store.adminGroups privilege grantor
    (store.groups.groupsOf grantor)
  edit ledger

def grant (store : Store) (role : String) (privilege : Privilege) (grantor : String)
    (occasion : Occasion) : Outcome :=
  match requireGrantor grantor with
  | .error reason => store.refuse reason
  | .ok () =>
    let name := Text.normalize role
    store.change grantor occasion (.privilegeGranted name privilege) <|
      store.delegated name privilege grantor fun ledger =>
        (ledger.grant store.catalogue name privilege grantor occasion.now).result

/-- The privilege, and all that it includes, taken from a role. -/
def revoke (store : Store) (role : String) (privilege : Privilege) (grantor : String)
    (occasion : Occasion) : Outcome :=
  match requireGrantor grantor with
  | .error reason => store.refuse reason
  | .ok () =>
    let name := Text.normalize role
    store.change grantor occasion (.privilegeRevoked name privilege) <|
      store.delegated name privilege grantor fun ledger =>
        (ledger.revoke store.catalogue name privilege grantor occasion.now).result

/-- The privilege, and all that it includes, taken from every role. -/
def drop (store : Store) (privilege : Privilege) (requestor : String) (occasion : Occasion) :
    Outcome :=
  store.change requestor occasion (.privilegeDropped privilege) fun ledger =>
    (ledger.drop store.catalogue privilege requestor occasion.now).result

/-- Every privilege of a service under the old path moved to the new one. -/
def rename (store : Store) (component service : String) (old new : List Step)
    (requestor : String) (occasion : Occasion) : Outcome :=
  store.change requestor occasion
    (.privilegeRenamed (Text.lower (Text.trim component)) (Text.lower (Text.trim service))
      (old.map Step.lowered) (new.map Step.lowered)) fun ledger =>
    (ledger.rename store.catalogue component service old new occasion.now).result

end Store

end Entitlement
