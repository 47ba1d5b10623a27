/-
This file gives changes and events their JSON form. A change is an object whose member `type`
says which change it is, and its members stand beside that one.
-/

import Entitlement.Event.Basic
import Entitlement.Ledger.Json
import Entitlement.Settings.Json

namespace Entitlement

namespace Json

def ofSteps (steps : List Step) : Json :=
  array (steps.map Step.toJson)

def asSteps? : Json → Option (List Step) :=
  asList? Step.ofJson?

def asUuid? (json : Json) : Option Uuid :=
  json.asText?.bind Uuid.ofText?

end Json

namespace Change

/-- The name of the kind of a change and its members. -/
def parts : Change → String × List (String × Json)
  | roleCreated role => ("role_created", [("role", .text role)])
  | roleDropped role => ("role_dropped", [("role", .text role)])
  | groupsAdded role groups =>
    ("groups_added", [("role", .text role), ("groups", Json.ofTexts groups)])
  | groupsRemoved role groups =>
    ("groups_removed", [("role", .text role), ("groups", Json.ofTexts groups)])
  | privilegeGranted role privilege =>
    ("privilege_granted", [("role", .text role), ("privilege", privilege.toJson)])
  | privilegeRevoked role privilege =>
    ("privilege_revoked", [("role", .text role), ("privilege", privilege.toJson)])
  | privilegeDropped privilege => ("privilege_dropped", [("privilege", privilege.toJson)])
  | privilegeRenamed component service oldPath newPath =>
    ("privilege_renamed",
      [("component", .text component), ("service", .text service),
       ("old_path", Json.ofSteps oldPath), ("new_path", Json.ofSteps newPath)])

def toJson (change : Change) : Json :=
  .object (("type", .text change.parts.1) :: change.parts.2)

/-- The change of a kind with the members or the items of `rest`. -/
def ofParts? (kind : String) (rest : Json) : Option Change :=
  match kind with
  | "role_created" => do
    let fields ← rest.fields? ["role"]
    return roleCreated (← fields.required? "role" Json.asText?)
  | "role_dropped" => do
    let fields ← rest.fields? ["role"]
    return roleDropped (← fields.required? "role" Json.asText?)
  | "groups_added" => do
    let fields ← rest.fields? ["role", "groups"]
    return groupsAdded (← fields.required? "role" Json.asText?)
      (← fields.required? "groups" Json.asTexts?)
  | "groups_removed" => do
    let fields ← rest.fields? ["role", "groups"]
    return groupsRemoved (← fields.required? "role" Json.asText?)
      (← fields.required? "groups" Json.asTexts?)
  | "privilege_granted" => do
    let fields ← rest.fields? ["role", "privilege"]
    return privilegeGranted (← fields.required? "role" Json.asText?)
      (← fields.required? "privilege" Privilege.ofJson?)
  | "privilege_revoked" => do
    let fields ← rest.fields? ["role", "privilege"]
    return privilegeRevoked (← fields.required? "role" Json.asText?)
      (← fields.required? "privilege" Privilege.ofJson?)
  | "privilege_dropped" => do
    let fields ← rest.fields? ["privilege"]
    return privilegeDropped (← fields.required? "privilege" Privilege.ofJson?)
  | "privilege_renamed" => do
    let fields ← rest.fields? ["component", "service", "old_path", "new_path"]
    return privilegeRenamed (← fields.required? "component" Json.asText?)
      (← fields.required? "service" Json.asText?)
      (← fields.required? "old_path" Json.asSteps?)
      (← fields.required? "new_path" Json.asSteps?)
  | _ => none

/-- The change that a JSON value is: an object with a member `type`, or an array that begins
with the kind. -/
def ofJson? : Json → Option Change
  | .object members => do
    let fields ← Json.ofMembers? ["type"] members
    let kind ← fields.required? "type" Json.asText?
    ofParts? kind (.object (members.filter fun member =>
      Json.Spelling.decode? member.1 != some "type"))
  | .array (kind :: items) => do
    ofParts? (← kind.asText?) (.array items)
  | _ => none

/-- How deep the containers of a written change may nest. -/
def maxDepth : Nat := 127

/-- The change that a text writes. The text must be sound even in what is passed over. -/
def ofText? (text : String) : Option Change := do
  ofJson? (← (← Json.read? text).sound? maxDepth)

/-- The event that tells of the change. -/
def toEvent (change : Change) (commit : Commit) (requestor : String) (occasion : Occasion) :
    Event where
  id := occasion.eventId
  topic := change.topic
  commit := commit
  requestor := requestor
  time := occasion.now
  version := 1
  payload := change.toJson.canonical

end Change

namespace Commit

def toJson (commit : Commit) : Json :=
  .object [("server_uuid", .text commit.server.text), ("sequence_id", .natural commit.sequence)]

def ofJson? (json : Json) : Option Commit := do
  let fields ← json.fields? ["server_uuid", "sequence_id"]
  return {
    server := ← fields.required? "server_uuid" Json.asUuid?
    sequence := ← fields.required? "sequence_id" Json.asWord64? }

end Commit

namespace Event

def toJson (event : Event) : Json :=
  .object [
    ("id", .text event.id.text),
    ("event_type", .text event.topic),
    ("commit", event.commit.toJson),
    ("requestor", .text event.requestor),
    ("timestamp", Json.ofTimestamp event.time),
    ("version", .natural event.version),
    ("payload", event.payload)]

/-- How deep the containers of a payload may nest. -/
def maxPayloadDepth : Nat := 126

def ofJson? (json : Json) : Option Event := do
  let fields ← json.fields?
    ["id", "event_type", "commit", "requestor", "timestamp", "version", "payload"]
  return {
    id := ← fields.required? "id" Json.asUuid?
    topic := ← fields.required? "event_type" Json.asText?
    commit := ← fields.required? "commit" Commit.ofJson?
    requestor := ← fields.required? "requestor" Json.asText?
    time := ← fields.required? "timestamp" Json.asTimestamp?
    version := ← fields.required? "version" Json.asWord32?
    payload := ← fields.required? "payload" (Json.kept? maxPayloadDepth) }

/-- The event that a text writes. -/
def ofText? (text : String) : Option Event :=
  (Json.read? text).bind ofJson?

end Event

end Entitlement
