/-
This file holds privileges. A privilege is made from a draft, which may lack fields; making it
checks the path and puts all names but the resource types into lower case. Blanks around the
names are kept.
-/

import Entitlement.ModelError
import Entitlement.Step

namespace Entitlement

/-- The right to do an action, within a service of a component, at a resource path and below. -/
structure Privilege where
  component : String
  service : String
  action : String
  scope : String
  /-- Whether holders may pass the privilege on, if that was said. -/
  grantOption : Option Bool
  steps : List Step
deriving DecidableEq, Repr

/-- A privilege in the making. -/
structure PrivilegeDraft where
  component : Option String := none
  service : Option String := none
  action : Option String := none
  scope : Option String := none
  grantOption : Option Bool := none
  steps : Option (List Step) := none
deriving DecidableEq, Repr

namespace PrivilegeDraft

/-- A field that must have been set. -/
def required {Value : Type} (field : PrivilegeField) : Option Value → Except ModelError Value
  | some value => .ok value
  | none => .error (.missingField field)

/-- The path, if slots can hold it. -/
def checkSteps (steps : List Step) : Except ModelError (List Step) :=
  if Step.maxDepth < steps.length then .error (.tooDeep steps.length)
  else match steps.find? fun step => !step.isStorable with
    | some step => .error (.unstorableName step.type)
    | none => .ok steps

/-- The privilege that the draft describes. -/
def build (draft : PrivilegeDraft) : Except ModelError Privilege := do
  let component ← required .component draft.component
  let service ← required .service draft.service
  let action ← required .action draft.action
  let scope ← required .scope draft.scope
  let steps ← required .steps draft.steps
  let steps ← checkSteps steps
  return {
    component := Text.lower component
    service := Text.lower service
    action := Text.lower action
    scope := Text.lower scope
    grantOption := draft.grantOption
    steps := steps.map Step.lowered }

end PrivilegeDraft

namespace Privilege

/-- Privileges are compared field by field, their steps without regard to the case of A to Z. -/
instance : BEq Privilege where
  beq left right :=
    left.component == right.component && left.service == right.service &&
      left.action == right.action && left.scope == right.scope &&
      left.grantOption == right.grantOption && left.steps == right.steps

/-- In hash tables privileges are told apart field by field, their steps as steps are. -/
def hashInput (privilege : Privilege) : List HashInput :=
  [.text privilege.component, .text privilege.service, .text privilege.action,
      .text privilege.scope] ++
    HashInput.ofOptionBool privilege.grantOption ++
    .count privilege.steps.length :: privilege.steps.flatMap Step.hashInput

instance : Hashable Privilege :=
  ⟨fun privilege => hash privilege.hashInput⟩

/-- A draft with all fields of the privilege. -/
def toDraft (privilege : Privilege) : PrivilegeDraft where
  component := privilege.component
  service := privilege.service
  action := privilege.action
  scope := privilege.scope
  grantOption := privilege.grantOption
  steps := privilege.steps

/-- The privilege for another action. -/
def withAction (privilege : Privilege) (action : String) : Privilege :=
  { privilege with action := Text.lower action }

def text (privilege : Privilege) : String :=
  privilege.component ++ "/" ++ privilege.service ++ " [" ++
    "->".intercalate (privilege.steps.map Step.text) ++ "] scope=" ++ privilege.scope ++
    " action=" ++ privilege.action ++
    match privilege.grantOption with
    | none => ""
    | some true => " grant_option=true"
    | some false => " grant_option=false"

end Privilege

end Entitlement
