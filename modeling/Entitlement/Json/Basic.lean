/-
This file holds JSON values. Members of an object keep the order in which they were written
and may repeat. Their names stay as they are spelled, because some readers of names look at the
spelling; `Json.member?` looks at what the names mean.
-/

import Entitlement.Json.Spelling

namespace Entitlement

/-- A JSON value. A number that is not written as a plain integer keeps its text. -/
inductive Json where
  | null
  | bool (value : Bool)
  | integer (value : Int)
  | decimal (literal : String)
  | text (value : String)
  /-- A text whose spelling stands for no characters. -/
  | illFormed (spelling : String)
  | array (items : List Json)
  /-- The names of the members are spelled as between quotes. -/
  | object (members : List (String × Json))

namespace Json

instance : Inhabited Json := ⟨null⟩

/-- A natural number as a JSON integer. -/
def natural (value : Nat) : Json :=
  integer value

/-- The text that is spelled so. -/
def ofSpelling (spelling : String) : Json :=
  match Spelling.decode? spelling with
  | some value => text value
  | none => illFormed spelling

/-- The first member of an object under a name. -/
def member? (json : Json) (name : String) : Option Json :=
  match json with
  | object members =>
    (members.find? fun member => Spelling.decode? member.1 == some name).map Prod.snd
  | _ => none

end Json

end Entitlement
