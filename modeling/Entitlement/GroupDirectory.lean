/-
This file holds the directory that says to which groups a user belongs. Users and groups are
normalized on their way in, and the groups given for one user in several places are joined.
-/

import Entitlement.Ledger.Basic

namespace Entitlement

structure GroupDirectory where
  users : OrderedMap String (OrderedSet String)

namespace GroupDirectory

def empty : GroupDirectory :=
  ⟨OrderedMap.empty⟩

instance : Inhabited GroupDirectory := ⟨empty⟩

/-- The directory with more groups for a user. -/
def addUser (directory : GroupDirectory) (user : String) (groups : List String) :
    GroupDirectory :=
  let name := Text.normalize user
  let earlier := (directory.users.get? name).getD OrderedSet.empty
  ⟨directory.users.insert name (earlier.union (normalizeAll groups))⟩

def ofList (users : List (String × List String)) : GroupDirectory :=
  users.foldl (fun directory user => directory.addUser user.1 user.2) empty

def contains (directory : GroupDirectory) (user : String) : Bool :=
  directory.users.contains (Text.normalize user)

/-- The groups of a user. Unknown users have none. -/
def groupsOf (directory : GroupDirectory) (user : String) : OrderedSet String :=
  (directory.users.get? (Text.normalize user)).getD OrderedSet.empty

end GroupDirectory

end Entitlement
