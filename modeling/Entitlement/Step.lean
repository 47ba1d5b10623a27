/-
This file holds the steps of a resource path. A step is a resource type and a resource name,
and both are compared without regard to the case of A to Z.
-/

import Entitlement.HashInput
import Entitlement.Text.AsciiCase
import Entitlement.Text.Blank
import Entitlement.Text.Lowercase

namespace Entitlement

/-- One resource on the way to another: a collection, then a field of it. -/
structure Step where
  type : String
  name : String
deriving DecidableEq, Repr

namespace Step

def sameType (left right : Step) : Bool :=
  Text.sameAsciiCase left.type right.type

instance : BEq Step :=
  ⟨fun left right => left.sameType right && Text.sameAsciiCase left.name right.name⟩

/-- Steps are told apart in hash tables by their lower-case forms. -/
def hashInput (step : Step) : List HashInput :=
  [.text (Text.lower step.type), .text (Text.lower step.name)]

instance : Hashable Step :=
  ⟨fun step => hash step.hashInput⟩

/-- The step with its name in lower case. -/
def lowered (step : Step) : Step :=
  { step with name := Text.lower step.name }

def text (step : Step) : String :=
  step.type ++ "=" ++ step.name

/-! ### Names that a slot can hold -/

/-- The most steps that a path may have. -/
def maxDepth : Nat := 4

/-- What stands in a slot that is not used. -/
def unusedMark : String := "__NULL__"

/-- Whether a name can stand in a slot: it is not blank and not the mark of an unused slot. -/
def isStorableName (name : String) : Bool :=
  !Text.isBlankText name && !Text.sameAsciiCase name unusedMark

def isStorable (step : Step) : Bool :=
  isStorableName step.name

end Step

end Entitlement
