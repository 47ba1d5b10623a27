/-
This file holds universally unique identifiers, which tell apart stores and events. They are
written as 32 hexadecimal digits in five groups, and read in three more forms: without the
hyphens, between braces, and as a name of the `uuid` space.
-/

import Entitlement.Text.Digits

namespace Entitlement

structure Uuid where
  digits : List Nat
  valid : digits.length = 32 ∧ ∀ digit ∈ digits, digit < 16
deriving DecidableEq

namespace Uuid

instance : Inhabited Uuid :=
  ⟨⟨List.replicate 32 0, by decide⟩⟩

def text (uuid : Uuid) : String :=
  let digits := uuid.digits.map Text.hexDigit
  String.ofList (digits.take 8 ++ '-' :: (digits.drop 8).take 4 ++ '-' :: (digits.drop 12).take 4 ++
    '-' :: (digits.drop 16).take 4 ++ '-' :: digits.drop 20)

/-- The digits of the groups with the given sizes, joined by hyphens. -/
def groups? : List Nat → List Char → Option (List Char)
  | [], _ => none
  | [size], characters => if characters.length = size then some characters else none
  | size :: sizes, characters =>
    match characters.drop size with
    | '-' :: rest => (groups? sizes rest).map (characters.take size ++ ·)
    | _ => none

/-- The digits in five groups. -/
def hyphenated? (characters : List Char) : Option (List Char) :=
  groups? [8, 4, 4, 4, 12] characters

/-- What stands between braces. -/
def braced? (characters : List Char) : Option (List Char) :=
  match characters with
  | '\x7b' :: rest => if rest.getLast? = some '\x7d' then some rest.dropLast else none
  | _ => none

/-- How a name of the `uuid` space begins. -/
def nameStart : List Char := ['u', 'r', 'n', ':', 'u', 'u', 'i', 'd', ':']

/-- What a name of the `uuid` space names. Its beginning may be written in either case. -/
def named? (characters : List Char) : Option (List Char) :=
  if (characters.take nameStart.length).map Char.toLower = nameStart then
    some (characters.drop nameStart.length)
  else none

/-- The digits of an identifier in any of the forms. -/
def digits? (characters : List Char) : Option (List Char) :=
  if characters.length = 32 then some characters
  else (hyphenated? characters).or
    (((braced? characters).bind hyphenated?).or ((named? characters).bind hyphenated?))

/-- The identifier that a text writes. -/
def ofText? (text : String) : Option Uuid := do
  let digits ← (← digits? text.toList).mapM Text.hexValue?
  if valid : digits.length = 32 ∧ ∀ digit ∈ digits, digit < 16 then return ⟨digits, valid⟩
  else none

example : (ofText? "\x7b0190A7B3-1C2D-7E4F-8A5B-6C7D8E9F0A1B\x7d").map text =
    some "0190a7b3-1c2d-7e4f-8a5b-6c7d8e9f0a1b" := by decide +kernel
example : (ofText? "Urn:UUID:0190a7b3-1c2d-7e4f-8a5b-6c7d8e9f0a1b").map text =
    some "0190a7b3-1c2d-7e4f-8a5b-6c7d8e9f0a1b" := by decide +kernel

end Uuid

end Entitlement
