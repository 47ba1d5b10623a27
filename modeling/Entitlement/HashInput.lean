/-
This file holds what a hash table is fed for a value: the parts of the value, one after the other.
A list comes after the number of its items, and an optional value after whether it is there, so that
parts that follow one another are not taken for parts of one another.
-/

namespace Entitlement

/-- A part of what a hash table is fed for a value. -/
inductive HashInput where
  | text (text : String)
  /-- The number of items that come next. -/
  | count (count : Nat)
  /-- Whether the value that comes next is there at all. -/
  | presence (isThere : Bool)
  | flag (flag : Bool)
deriving DecidableEq, Repr, Hashable

namespace HashInput

/-- What is fed for an optional yes or no. -/
def ofOptionBool : Option Bool → List HashInput
  | none => [.presence false]
  | some value => [.presence true, .flag value]

end HashInput

end Entitlement
