/-
This file gives the ledger its JSON form, in which it is kept in a file. Numbers must fit the
words of the format: 64 bits for the numbers of records and 32 for the tags of paths.
-/

import Entitlement.Json.Kept
import Entitlement.Json.Printer
import Entitlement.Json.Reader
import Entitlement.Ledger.Basic
import Entitlement.Privilege.Json
import Entitlement.Timestamp.Reader

namespace Entitlement

namespace Json

/-- A point in time as a text. -/
def ofTimestamp (timestamp : Timestamp) : Json :=
  text timestamp.text

def asTimestamp? (json : Json) : Option Timestamp :=
  json.asText?.bind Timestamp.ofText?

/-- A whole number of 64 bits. -/
def asWord64? : Json → Option Nat :=
  asBelow? (Nat.pow 2 64)

/-- A whole number of 32 bits. -/
def asWord32? : Json → Option Nat :=
  asBelow? (Nat.pow 2 32)

/-- A number of 64 bits as the name of a member, which must be spelled in plain digits. -/
def word64OfName? (spelling : String) : Option Nat :=
  let digits := spelling.toList
  let value := Numeral.value digits
  if Numeral.isWhole digits && digits.all Char.isDigit && value < Nat.pow 2 64 then some value
  else none

/-- The members of an object that lists a map by its keys, of which each gives the spelling of
a name. -/
def ofMap {Key Value : Type} [Ord Key] (spell : Key → String) (write : Value → Json)
    (map : OrderedMap Key Value) : Json :=
  object (map.entries.map fun entry => (spell entry.1, write entry.2))

end Json

namespace StoredPath

def toJson (path : StoredPath) : Json :=
  .object [("tag", .natural path.tag), ("slots", .array (path.slots.names.map Json.text))]

def slotsOfJson? (json : Json) : Option Slots := do
  let names ← Json.asList? Json.asText? json
  if full : names.length = Step.maxDepth then return ⟨names, full⟩
  else none

def ofJson? (json : Json) : Option StoredPath := do
  let fields ← json.fields? ["tag", "slots"]
  return {
    tag := ← fields.required? "tag" Json.asWord32?
    slots := ← fields.required? "slots" slotsOfJson? }

end StoredPath

namespace NameRow

def toJson (row : NameRow) : Json :=
  .object [("name", .text row.name), ("created_at", Json.ofTimestamp row.createdAt)]

def ofJson? (json : Json) : Option NameRow := do
  let fields ← json.fields? ["name", "created_at"]
  return {
    name := ← fields.required? "name" Json.asText?
    createdAt := ← fields.required? "created_at" Json.asTimestamp? }

end NameRow

namespace RecordKey

def fieldNames : List String :=
  ["component", "service", "action", "scope", "grant_option", "path"]

def members (key : RecordKey) : List (String × Json) :=
  [("component", .text key.component),
   ("service", .text key.service),
   ("action", .text key.action),
   ("scope", .text key.scope),
   ("grant_option", Json.ofOptionBool key.grantOption),
   ("path", key.path.toJson)]

def toJson (key : RecordKey) : Json :=
  .object key.members

def ofFields? (fields : Json.Fields) : Option RecordKey := do
  return {
    component := ← fields.required? "component" Json.asText?
    service := ← fields.required? "service" Json.asText?
    action := ← fields.required? "action" Json.asText?
    scope := ← fields.required? "scope" Json.asText?
    grantOption := ← fields.optional? "grant_option" Json.asBool?
    path := ← fields.required? "path" StoredPath.ofJson? }

def ofJson? (json : Json) : Option RecordKey :=
  (json.fields? fieldNames).bind ofFields?

end RecordKey

namespace Record

/-- The members of the key come first, at the same level. -/
def toJson (record : Record) : Json :=
  .object (record.key.members ++
    [("grantor", .text record.grantor), ("created_at", Json.ofTimestamp record.createdAt)])

def ofMembers? (members : List (String × Json)) : Option Record := do
  let fields ← Json.ofMembers? (RecordKey.fieldNames ++ ["grantor", "created_at"]) members
  return {
    key := ← RecordKey.ofFields? fields
    grantor := ← fields.required? "grantor" Json.asText?
    createdAt := ← fields.required? "created_at" Json.asTimestamp? }

/-- How deep the containers of a record may nest. -/
def maxDepth : Nat := 125

/-- A record must be an object, and sound even in what is passed over. -/
def ofJson? (json : Json) : Option Record := do
  match ← json.sound? maxDepth with
  | .object members => ofMembers? members
  | _ => none

end Record

namespace GroupLink

def toJson (link : GroupLink) : Json :=
  .array [.text link.role, .text link.group]

def ofJson? (json : Json) : Option GroupLink :=
  (Json.asPair? Json.asText? Json.asText? json).map fun pair => ⟨pair.1, pair.2⟩

end GroupLink

namespace Holding

def toJson (holding : Holding) : Json :=
  .array [.text holding.role, .natural holding.record]

def ofJson? (json : Json) : Option Holding :=
  (Json.asPair? Json.asText? Json.asWord64? json).map fun pair => ⟨pair.1, pair.2⟩

end Holding

namespace Ledger

/-- The decimal name of a record's number. -/
def numberName (number : Nat) : String :=
  String.ofList (Nat.toDigits 10 number)

def toJson (ledger : Ledger) : Json :=
  .object [
    ("roles", Json.ofMap Json.Spelling.encode NameRow.toJson ledger.roles),
    ("groups", Json.ofMap Json.Spelling.encode NameRow.toJson ledger.groups),
    ("role_groups", .array (ledger.groupLinks.elements.map GroupLink.toJson)),
    ("privileges", Json.ofMap numberName Record.toJson ledger.records),
    ("role_privileges", .array (ledger.holdings.elements.map Holding.toJson)),
    ("next_privilege_id", .natural ledger.lastRecord)]

def ofJson? (json : Json) : Option Ledger := do
  let fields ← json.fields?
    ["roles", "groups", "role_groups", "privileges", "role_privileges", "next_privilege_id"]
  return {
    roles := ← fields.required? "roles" (Json.asMap? Json.Spelling.decode? NameRow.ofJson?)
    groups := ← fields.required? "groups" (Json.asMap? Json.Spelling.decode? NameRow.ofJson?)
    groupLinks := OrderedSet.ofList
      (← fields.required? "role_groups" (Json.asList? GroupLink.ofJson?))
    records := ← fields.required? "privileges" (Json.asMap? Json.word64OfName? Record.ofJson?)
    holdings := OrderedSet.ofList
      (← fields.required? "role_privileges" (Json.asList? Holding.ofJson?))
    lastRecord := ← fields.required? "next_privilege_id" Json.asWord64? }

/-- The ledger on one line. -/
def compactText (ledger : Ledger) : String :=
  ledger.toJson.compact

/-- The ledger over many lines, as it stands in a file. -/
def prettyText (ledger : Ledger) : String :=
  ledger.toJson.pretty

/-- The ledger that a text writes. -/
def ofText? (text : String) : Option Ledger :=
  (Json.read? text).bind ofJson?

end Ledger

end Entitlement
