/-
This file holds the action vocabularies of the components. A vocabulary names single actions
and compounds of them, among which there is always `all`; names are looked up in any spelling.
-/

import Entitlement.Action
import Entitlement.ModelError
import Entitlement.Ordered.Map

namespace Entitlement

/-- The actions of one component. -/
structure Vocabulary where
  component : String
  actions : OrderedMap String Action
  /-- The members of `all`, in order. -/
  allMembers : List Action

namespace Vocabulary

/-- The compound action `all` of the component. -/
def all (vocabulary : Vocabulary) : Action :=
  .compound Action.allName vocabulary.allMembers

def resolve? (vocabulary : Vocabulary) (action : String) : Option Action :=
  vocabulary.actions.get? (Text.normalize action)

/-! ### Building a vocabulary -/

/-- The actions with a new one, whose name must be new. -/
def addAction (component : String) (actions : OrderedMap String Action) (action : Action) :
    Except ModelError (OrderedMap String Action) :=
  if actions.contains action.name then .error (.duplicateAction component action.name)
  else .ok (actions.insert action.name action)

/-- A member of a compound, which must be a single action. -/
def findMember (component : String) (actions : OrderedMap String Action) (member : String) :
    Except ModelError Action :=
  match actions.get? member with
  | some (.base name) => .ok (.base name)
  | _ => .error (.unknownAction component member)

/-- The actions with a new compound. Its own name is checked before its members are. -/
def addCompound (component : String) (actions : OrderedMap String Action)
    (compound : String × List String) : Except ModelError (OrderedMap String Action) :=
  if actions.contains compound.1 then .error (.duplicateAction component compound.1)
  else do
    let members ← compound.2.mapM (findMember component actions)
    addAction component actions (.compound compound.1 members)

/-- The vocabulary of a component with the single actions `bases` and then the compounds, each
given by its name and the names of its members. -/
def build (component : String) (bases : List String) (compounds : List (String × List String)) :
    Except ModelError Vocabulary := do
  let component := Text.normalize component
  let singles := bases.map fun name => Action.base (Text.normalize name)
  let groups := compounds.map fun compound =>
    (Text.normalize compound.1, compound.2.map Text.normalize)
  let actions ← singles.foldlM (addAction component) OrderedMap.empty
  let actions ← groups.foldlM (addCompound component) actions
  match actions.get? Action.allName with
  | some (.compound _ members) => return ⟨component, actions, members⟩
  | _ => throw (.missingAll component)

end Vocabulary

/-- The vocabularies of all components, each under its component's normalized name. -/
structure Vocabularies where
  byComponent : OrderedMap String Vocabulary

namespace Vocabularies

def empty : Vocabularies :=
  ⟨OrderedMap.empty⟩

instance : Inhabited Vocabularies := ⟨empty⟩

/-- A vocabulary takes the place of an earlier one of the same component. -/
def register (vocabularies : Vocabularies) (vocabulary : Vocabulary) : Vocabularies :=
  ⟨vocabularies.byComponent.insert vocabulary.component vocabulary⟩

def contains (vocabularies : Vocabularies) (component : String) : Bool :=
  vocabularies.byComponent.contains (Text.normalize component)

def component (vocabularies : Vocabularies) (component : String) :
    Except ModelError Vocabulary :=
  match vocabularies.byComponent.get? (Text.normalize component) with
  | some vocabulary => .ok vocabulary
  | none => .error (.unknownComponent component)

/-- The compound action `all` of a component. -/
def all (vocabularies : Vocabularies) (component : String) : Except ModelError Action :=
  (vocabularies.component component).map Vocabulary.all

def resolve (vocabularies : Vocabularies) (component action : String) :
    Except ModelError Action :=
  match vocabularies.component component with
  | .error reason => .error reason
  | .ok vocabulary =>
    match vocabulary.resolve? action with
    | some found => .ok found
    | none => .error (.unknownAction vocabulary.component action)

end Vocabularies

end Entitlement
