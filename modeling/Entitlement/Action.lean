/-
This file holds actions. An action is a single one or a compound of others, and it is known by
its name alone: two actions of one name are the same action, whatever their members.
-/

import Entitlement.Text.Name

namespace Entitlement

/-- Something that can be done to a resource. -/
inductive Action where
  | base (name : String)
  | compound (name : String) (members : List Action)

namespace Action

instance : Inhabited Action := ⟨base ""⟩

/-- The name of the compound action that every vocabulary has. -/
def allName : String := "all"

def name : Action → String
  | base name => name
  | compound name _ => name

def isCompound : Action → Bool
  | base _ => false
  | compound .. => true

/-- The actions that a compound stands for, in order. -/
def members : Action → List Action
  | base _ => []
  | compound _ members => members

instance : BEq Action := ⟨fun left right => left.name == right.name⟩

theorem beq_iff {left right : Action} : (left == right) = true ↔ left.name = right.name :=
  @beq_iff_eq String _ _ left.name right.name

/-- The single action of a name in any spelling. -/
def ofName (name : String) : Action :=
  base (Text.normalize name)

/-- The compound action of a name in any spelling. -/
def ofMembers (name : String) (members : List Action) : Action :=
  compound (Text.normalize name) members

def includes (action other : Action) : Bool :=
  action.members.any (· == other)

/-- The members other than `excluded`: what is left of a compound when one action is taken
out of it. -/
def leftovers (action excluded : Action) : List Action :=
  action.members.filter fun member => !(member == excluded)

end Action

end Entitlement
