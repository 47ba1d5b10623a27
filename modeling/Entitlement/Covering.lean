/-
This file says when a privilege that is held covers one that is asked for: the same component
and service, an action that includes the action asked for, and a path at or above the path
asked for. A wildcard name, on either side, agrees with every name.
-/

import Entitlement.Privilege
import Entitlement.Vocabulary

namespace Entitlement

/-- Whether the action `held` includes the action `asked`: it is `all`, or the same and not
`all`. -/
def actionCovers (all held asked : Action) : Bool :=
  held == all || (!(asked == all) && held == asked)

/-- Whether a name stands for every name: `*`, or `all` in any case. -/
def isWildcard (name : String) : Bool :=
  name == "*" || Text.sameAsciiCase name Action.allName

/-- Whether a step of the held path agrees with the step of the asked path at its depth. -/
def stepCovers (held asked : Step) : Bool :=
  held.sameType asked &&
    (Text.sameAsciiCase held.name asked.name || isWildcard held.name ||
      isWildcard asked.name)

/-- Whether the held path is at or above the asked one. A held path may go deeper only by
wildcards. -/
def pathCovers : List Step → List Step → Bool
  | [], _ => true
  | held :: deeper, [] => isWildcard held.name && pathCovers deeper []
  | held :: deeper, asked :: further => stepCovers held asked && pathCovers deeper further

/-- Whether a held privilege covers one that is asked for. Actions that the component of the
held one does not know cover nothing and are covered by nothing. -/
def Privilege.covers (vocabularies : Vocabularies) (held asked : Privilege) : Bool :=
  Text.sameAsciiCase held.component asked.component &&
    Text.sameAsciiCase held.service asked.service &&
    (match vocabularies.all held.component,
        vocabularies.resolve held.component held.action,
        vocabularies.resolve held.component asked.action with
      | .ok all, .ok heldAction, .ok askedAction => actionCovers all heldAction askedAction
      | _, _, _ => false) &&
    pathCovers held.steps asked.steps

end Entitlement
