/-
This file holds the normal form of a name: the blanks around it dropped and its letters in
lower case. Two spellings of a role, group, component, action or user name are the same name
when their normal forms are equal.
-/

import Entitlement.Text.Blank
import Entitlement.Text.Lowercase

namespace Entitlement.Text

/-- The normal form of a name. -/
def normalize (name : String) : String :=
  lower (trim name)

end Entitlement.Text
