/-
This file holds the ways in which a vocabulary, a resource path or a privilege can be refused,
and the text that says so.
-/

namespace Entitlement

/-- The fields that every privilege must have. -/
inductive PrivilegeField where
  | component
  | service
  | action
  | scope
  | steps
deriving DecidableEq, Repr

def PrivilegeField.name : PrivilegeField → String
  | component => "component"
  | service => "service"
  | action => "action"
  | scope => "scope"
  | steps => "authorizables"

inductive ModelError where
  /-- Nothing is registered for the component. -/
  | unknownComponent (component : String)
  /-- The vocabulary of the component has no such action. -/
  | unknownAction (component action : String)
  /-- The types of a path begin none of the component's type sequences. -/
  | unmatchedTypes (component : String) (types : List String)
  /-- The component has no type sequence under the tag. -/
  | unknownTag (component : String) (tag : Nat)
  /-- The path has more steps than there are slots. -/
  | tooDeep (steps : Nat)
  /-- A step of the type has a name that no slot can hold. -/
  | unstorableName (type : String)
  | missingField (field : PrivilegeField)
  /-- The vocabulary has no compound action `all`. -/
  | missingAll (component : String)
  | duplicateAction (component action : String)
deriving DecidableEq, Repr

namespace ModelError

def message : ModelError → String
  | unknownComponent component => s!"Unknown component: {component}"
  | unknownAction component action => s!"Unknown action '{action}' for component {component}"
  | unmatchedTypes component types =>
    s!"Invalid hierarchy for component {component}: [" ++ ",".intercalate types ++ "]"
  | unknownTag component tag => s!"Invalid hierarchy for component {component}: [tag {tag}]"
  | tooDeep steps => s!"Resource path has {steps} steps, at most 4 are supported"
  | unstorableName type => s!"Invalid name for resource type {type}"
  | missingField field => "Missing required field: " ++ field.name
  | missingAll component => s!"Component {component} does not define the ALL action"
  | duplicateAction component action =>
    s!"Duplicate action '{action}' for component {component}"

/-- Whether the path itself cannot be stored, whoever asks. -/
def isUnsupportedPath : ModelError → Bool
  | unmatchedTypes .. => true
  | unknownTag .. => true
  | tooDeep _ => true
  | _ => false

end ModelError

end Entitlement
