/-
This file gives settings their JSON form. The members of `all`, the admin groups, the place of
the store and the groups of the users may be left out.
-/

import Entitlement.Ledger.Json
import Entitlement.Settings.Basic

namespace Entitlement

/-- A list of texts. -/
def Json.asTexts? : Json → Option (List String) :=
  Json.asList? Json.asText?

def Json.ofTexts (texts : List String) : Json :=
  .array (texts.map .text)

namespace ComponentSettings

def toJson (component : ComponentSettings) : Json :=
  .object [
    ("name", .text component.name),
    ("actions", Json.ofTexts component.actions),
    ("all_actions", Json.ofTexts component.allMembers),
    ("hierarchies", .array (component.hierarchies.map Json.ofTexts))]

def ofJson? (json : Json) : Option ComponentSettings := do
  let fields ← json.fields? ["name", "actions", "all_actions", "hierarchies"]
  return {
    name := ← fields.required? "name" Json.asText?
    actions := ← fields.required? "actions" Json.asTexts?
    allMembers := ← fields.defaulted? "all_actions" [] Json.asTexts?
    hierarchies := ← fields.required? "hierarchies" (Json.asList? Json.asTexts?) }

end ComponentSettings

namespace Settings

def toJson (settings : Settings) : Json :=
  .object [
    ("admin_groups", Json.ofTexts settings.adminGroups),
    ("store_timeout_secs", .natural settings.timeoutSeconds),
    ("store_path", settings.storePath.elim .null Json.text),
    ("components", .array (settings.components.map ComponentSettings.toJson)),
    ("user_groups", Json.ofMap Json.Spelling.encode Json.ofTexts settings.userGroups)]

def ofJson? (json : Json) : Option Settings := do
  let fields ← json.fields?
    ["admin_groups", "store_timeout_secs", "store_path", "components", "user_groups"]
  return {
    adminGroups := ← fields.defaulted? "admin_groups" [] Json.asTexts?
    timeoutSeconds := ← fields.required? "store_timeout_secs" Json.asWord64?
    storePath := ← fields.optional? "store_path" Json.asText?
    components := ← fields.required? "components" (Json.asList? ComponentSettings.ofJson?)
    userGroups := ← fields.defaulted? "user_groups" OrderedMap.empty
      (Json.asMap? Json.Spelling.decode? Json.asTexts?) }

/-- The settings that a text writes. -/
def ofText (text : String) : Except SettingsError Settings :=
  match (Json.read? text).bind ofJson? with
  | some settings => .ok settings
  | none => .error .malformed

end Settings

end Entitlement
