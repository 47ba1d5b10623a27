/-
This file holds the events by which a store makes its changes known: what was changed, by which
commit, on whose request.
-/

import Entitlement.Json.Basic
import Entitlement.Privilege
import Entitlement.Timestamp
import Entitlement.Uuid

namespace Entitlement

/-- A change of a store. -/
inductive Change where
  | roleCreated (role : String)
  | roleDropped (role : String)
  | groupsAdded (role : String) (groups : List String)
  | groupsRemoved (role : String) (groups : List String)
  | privilegeGranted (role : String) (privilege : Privilege)
  | privilegeRevoked (role : String) (privilege : Privilege)
  | privilegeDropped (privilege : Privilege)
  | privilegeRenamed (component service : String) (oldPath newPath : List Step)
deriving DecidableEq, Repr

/-- The topic under which a change is published: what it is about and what was done to it. -/
def Change.topic : Change → String
  | roleCreated _ => "role.created"
  | roleDropped _ => "role.dropped"
  | groupsAdded .. => "group.added"
  | groupsRemoved .. => "group.removed"
  | privilegeGranted .. => "privilege.granted"
  | privilegeRevoked .. => "privilege.revoked"
  | privilegeDropped _ => "privilege.dropped"
  | privilegeRenamed .. => "privilege.renamed"

/-- One of the commits of a store, which counts them from one. -/
structure Commit where
  server : Uuid
  sequence : Nat
deriving DecidableEq

def Commit.text (commit : Commit) : String :=
  s!"{commit.server.text}#{commit.sequence}"

/-- A published change. Its payload is JSON of any shape. -/
structure Event where
  id : Uuid
  topic : String
  commit : Commit
  requestor : String
  time : Timestamp
  version : Nat
  payload : Json

/-- What the world outside gives to a call: the time and a fresh identifier. -/
structure Occasion where
  now : Timestamp
  eventId : Uuid

end Entitlement
