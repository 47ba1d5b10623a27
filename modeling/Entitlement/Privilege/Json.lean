/-
This file gives steps and privileges their JSON form. A privilege that is read goes through a
draft, so what cannot be made cannot be read either.
-/

import Entitlement.Json.Reader
import Entitlement.Json.Record
import Entitlement.Privilege

namespace Entitlement

/-- An optional yes or no. -/
def Json.ofOptionBool : Option Bool → Json
  | none => .null
  | some value => .bool value

namespace Step

def toJson (step : Step) : Json :=
  .object [("type_name", .text step.type), ("name", .text step.name)]

def ofJson? (json : Json) : Option Step := do
  let fields ← json.fields? ["type_name", "name"]
  return {
    type := ← fields.required? "type_name" Json.asText?
    name := ← fields.required? "name" Json.asText? }

end Step

namespace Privilege

def toJson (privilege : Privilege) : Json :=
  .object [
    ("component", .text privilege.component),
    ("service", .text privilege.service),
    ("action", .text privilege.action),
    ("scope", .text privilege.scope),
    ("grant_option", Json.ofOptionBool privilege.grantOption),
    ("authorizables", .array (privilege.steps.map Step.toJson))]

/-- The draft that a JSON value gives. -/
def draftOfJson? (json : Json) : Option PrivilegeDraft := do
  let fields ← json.fields?
    ["component", "service", "action", "scope", "grant_option", "authorizables"]
  return {
    component := some (← fields.required? "component" Json.asText?)
    service := some (← fields.required? "service" Json.asText?)
    action := some (← fields.required? "action" Json.asText?)
    scope := some (← fields.required? "scope" Json.asText?)
    grantOption := ← fields.optional? "grant_option" Json.asBool?
    steps := some (← fields.required? "authorizables" (Json.asList? Step.ofJson?)) }

def ofJson? (json : Json) : Option Privilege := do
  (← draftOfJson? json).build.toOption

/-- The privilege that a text writes. -/
def ofText? (text : String) : Option Privilege :=
  (Json.read? text).bind ofJson?

end Privilege

end Entitlement
