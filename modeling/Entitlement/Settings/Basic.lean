/-
This file holds the settings of a store: the admin groups, how long to wait, where the store is
kept, the vocabularies and hierarchies of the components, and the groups of the users. Settings
are checked in a fixed order, and the first thing wrong is reported.
-/

import Entitlement.Catalogue

namespace Entitlement

/-- The actions and the type sequences of one component. -/
structure ComponentSettings where
  name : String
  actions : List String
  /-- The members of `all`. When the list is empty, every action is one. -/
  allMembers : List String
  hierarchies : List (List String)
deriving DecidableEq, Repr

structure Settings where
  /-- The groups whose members may grant and revoke everything. -/
  adminGroups : List String
  timeoutSeconds : Nat
  /-- The file in which the store is kept, if it is kept in one. -/
  storePath : Option String
  components : List ComponentSettings
  userGroups : OrderedMap String (List String)

/-- Why settings were refused. -/
inductive SettingsError where
  | invalidValue (key why : String)
  | unreadableFile (path why : String)
  /-- The text is not JSON, or not JSON for settings. -/
  | malformed
  /-- The vocabulary of a component is refused. -/
  | model (reason : ModelError)
deriving DecidableEq, Repr

def SettingsError.message : SettingsError → String
  | invalidValue key why => s!"Invalid configuration value for {key}: {why}"
  | unreadableFile path why => s!"Failed to read configuration file {path}: {why}"
  | malformed => "Failed to parse configuration"
  | model reason => "Invalid component model: " ++ reason.message

/-- Refused settings make the call that uses them invalid. -/
def StoreError.ofSettings (error : SettingsError) : StoreError :=
  .invalidInput error.message

namespace ComponentSettings

/-- A search component with queries and updates of collections and their fields. -/
def search : ComponentSettings where
  name := "solr"
  actions := ["query", "update"]
  allMembers := []
  hierarchies := [["Collection", "Field"]]

/-- The vocabulary of the component. -/
def vocabulary (component : ComponentSettings) : Except SettingsError Vocabulary :=
  let members := if component.allMembers.isEmpty then component.actions else component.allMembers
  (Vocabulary.build component.name component.actions [(Action.allName, members)]).mapError .model

/-- The key under which faults of the component are reported. -/
def key (component : ComponentSettings) : String :=
  "components." ++ component.name

def isValidHierarchy (types : List String) : Bool :=
  !types.isEmpty && types.length ≤ Step.maxDepth

/-- Checks a component that comes after components of the given normalized names. -/
def check (component : ComponentSettings) (earlier : List String) : Except SettingsError Unit := do
  if Text.isBlankText component.name then
    throw (.invalidValue "components" "component name must not be blank")
  if earlier.contains (Text.normalize component.name) then
    throw (.invalidValue component.key "component declared twice")
  if component.actions.isEmpty then
    throw (.invalidValue component.key "no actions declared")
  if component.hierarchies.isEmpty then
    throw (.invalidValue component.key "no resource hierarchy declared")
  if !component.hierarchies.all isValidHierarchy then
    throw (.invalidValue component.key "hierarchy must have 1 to 4 resource types")
  let _ ← component.vocabulary

/-- Checks the components in order. -/
def checkAll (earlier : List String) : List ComponentSettings → Except SettingsError Unit
  | [] => .ok ()
  | component :: rest => do
    component.check earlier
    checkAll (Text.normalize component.name :: earlier) rest

end ComponentSettings

namespace Settings

/-- A store in memory with the search component. -/
def default : Settings where
  adminGroups := []
  timeoutSeconds := 30
  storePath := none
  components := [ComponentSettings.search]
  userGroups := OrderedMap.empty

instance : Inhabited Settings := ⟨default⟩

def adminGroupSet (settings : Settings) : OrderedSet String :=
  normalizeAll settings.adminGroups

def check (settings : Settings) : Except SettingsError Unit := do
  if settings.timeoutSeconds = 0 then
    throw (.invalidValue "store_timeout_secs" "must be greater than zero")
  if settings.adminGroups.any Text.isBlankText then
    throw (.invalidValue "admin_groups" "group names must not be blank")
  if settings.components.isEmpty then
    throw (.invalidValue "components" "at least one component is required")
  ComponentSettings.checkAll [] settings.components

/-- The catalogue with a component added. -/
def addComponent (catalogue : Catalogue) (component : ComponentSettings) :
    Except SettingsError Catalogue := do
  let vocabulary ← component.vocabulary
  return {
    vocabularies := catalogue.vocabularies.register vocabulary
    hierarchies := component.hierarchies.foldl
      (fun hierarchies types => hierarchies.register component.name types) catalogue.hierarchies }

/-- The catalogue of the components, if the settings are valid. -/
def catalogue (settings : Settings) : Except SettingsError Catalogue := do
  settings.check
  settings.components.foldlM addComponent ⟨Vocabularies.empty, Hierarchies.empty⟩

end Settings

end Entitlement
