/-
This file turns JSON values into values of the library's own types. A record is an object with
known members, of which unknown ones are passed over and a known one may not repeat, or an
array of the record's fields in order. What is passed over need not be sound.
-/

import Entitlement.Json.Basic
import Entitlement.Ordered.Map

namespace Entitlement.Json

/-! ### Single values -/

def asText? : Json → Option String
  | text value => some value
  | _ => none

def asBool? : Json → Option Bool
  | bool value => some value
  | _ => none

/-- A natural number below the bound. -/
def asBelow? (bound : Nat) : Json → Option Nat
  | integer (.ofNat value) => if value < bound then some value else none
  | _ => none

/-- Null, or a value. -/
def asOption? {Value : Type} (read : Json → Option Value) : Json → Option (Option Value)
  | null => some none
  | value => (read value).map some

/-! ### Containers -/

def asList? {Value : Type} (read : Json → Option Value) : Json → Option (List Value)
  | array items => items.mapM read
  | _ => none

def asPair? {First Second : Type} (readFirst : Json → Option First)
    (readSecond : Json → Option Second) : Json → Option (First × Second)
  | array [first, second] => do return (← readFirst first, ← readSecond second)
  | _ => none

/-- An object as a map, the last of several members with one key. A key is read from the
spelling of a name. -/
def asMap? {Key Value : Type} [Ord Key] [Std.TransOrd Key] (readKey : String → Option Key)
    (read : Json → Option Value) : Json → Option (OrderedMap Key Value)
  | object members =>
    (members.mapM fun (member : String × Json) => do
      return (← readKey member.1, ← read member.2)).map
      OrderedMap.ofList
  | _ => none

/-! ### Records -/

/-- The fields of a record that were given. -/
def Fields := List (String × Json)

/-- The members with what their names mean. -/
def named? (members : List (String × Json)) : Option (List (String × Json)) :=
  members.mapM fun member => do return (← Spelling.decode? member.1, member.2)

/-- The members of an object with what their names mean. -/
def entries? : Json → Option (List (String × Json))
  | object members => named? members
  | _ => none

/-- The fields given by the members of an object, if no known one repeats. -/
def ofMembers? (names : List String) (members : List (String × Json)) : Option Fields := do
  let known := (← named? members).filter fun member => names.contains member.1
  if (known.map Prod.fst).Nodup then return known else none

/-- The fields of a record with the given field names. -/
def fields? (names : List String) : Json → Option Fields
  | object members => ofMembers? names members
  | array items => if items.length ≤ names.length then some (names.zip items) else none
  | _ => none

namespace Fields

def value? (fields : Fields) (name : String) : Option Json :=
  List.lookup name fields

/-- A field that must be given. -/
def required? {Value : Type} (fields : Fields) (name : String) (read : Json → Option Value) :
    Option Value :=
  (fields.value? name).bind read

/-- A field with a value of its own for when it is not given. -/
def defaulted? {Value : Type} (fields : Fields) (name : String) (absent : Value)
    (read : Json → Option Value) : Option Value :=
  match fields.value? name with
  | none => some absent
  | some value => read value

/-- A field that may be null or not given. -/
def optional? {Value : Type} (fields : Fields) (name : String) (read : Json → Option Value) :
    Option (Option Value) :=
  fields.defaulted? name none (asOption? read)

end Fields

end Entitlement.Json
