/-
This file says which JSON values can be kept when nothing is known about their shape, and in
which form: every text and name stands for characters, every number is finite, and containers
do not nest too deep; the members are sorted by name, the last of several under one name.
-/

import Entitlement.Json.Number
import Entitlement.Ordered.Map

namespace Entitlement.Json

/-! ### Values that can be kept -/

/-- Whether a value that holds no other values can be kept. -/
def isSoundScalar : Json → Bool
  | integer value => isWord value || (Numeral.ofInteger value).text?.isSome
  | decimal literal => ((Numeral.ofChars? literal.toList).bind Numeral.size?).isSome
  | illFormed _ => false
  | _ => true

mutual

/-- Whether a value can be kept where containers may nest `room` deep. -/
def isSound (room : Nat) : Json → Bool
  | array items => 0 < room && areSoundItems (room - 1) items
  | object members => 0 < room && areSoundMembers (room - 1) members
  | scalar => isSoundScalar scalar

def areSoundItems (room : Nat) : List Json → Bool
  | [] => true
  | item :: rest => isSound room item && areSoundItems room rest

def areSoundMembers (room : Nat) : List (String × Json) → Bool
  | [] => true
  | (name, value) :: rest =>
    (Spelling.decode? name).isSome && isSound room value && areSoundMembers room rest

end

/-! ### The form in which they are kept -/

/-- The members in the order of their names, the last of several under one name. -/
def sortedMembers (members : List (String × Json)) : List (String × Json) :=
  let named := members.map fun member =>
    ((Spelling.decode? member.1).getD member.1, member.2)
  (OrderedMap.ofList named).entries.map fun member => (Spelling.encode member.1, member.2)

/-- A scalar as it is kept. -/
def canonicalScalar : Json → Json
  | integer value =>
    if isWord value then integer value
    else (Numeral.ofInteger value).text?.elim (integer value) decimal
  | decimal literal =>
    ((Numeral.ofChars? literal.toList).bind Numeral.text?).elim (decimal literal) decimal
  | other => other

mutual

/-- The value with its numbers rounded and the members of every object sorted. -/
def canonical : Json → Json
  | array items => array (canonicalItems items)
  | object members => object (sortedMembers (canonicalMembers members))
  | scalar => canonicalScalar scalar

def canonicalItems : List Json → List Json
  | [] => []
  | item :: rest => canonical item :: canonicalItems rest

def canonicalMembers : List (String × Json) → List (String × Json)
  | [] => []
  | (name, value) :: rest => (name, canonical value) :: canonicalMembers rest

end

/-- The value as it is kept, if it can be kept where containers may nest `room` deep. -/
def kept? (room : Nat) (json : Json) : Option Json :=
  if json.isSound room then some json.canonical else none

/-- The value unchanged, if it could be kept. -/
def sound? (room : Nat) (json : Json) : Option Json :=
  if json.isSound room then some json else none

end Entitlement.Json
