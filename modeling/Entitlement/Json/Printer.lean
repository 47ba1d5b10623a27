/-
This file writes JSON values, on one line without blanks or over many lines with two blanks
for each level. An empty container is written `[]` or `\x7b\x7d` in both forms.
-/

import Entitlement.Json.Basic

namespace Entitlement.Json

/-- A spelling between its quotes. -/
def quoted (spelling : List Char) : List Char :=
  '"' :: spelling ++ ['"']

def integerChars (value : Int) : List Char :=
  match value with
  | .ofNat absolute => Nat.toDigits 10 absolute
  | .negSucc before => '-' :: Nat.toDigits 10 (before + 1)

/-- The text of a value that holds no other values. -/
def scalarChars : Json → List Char
  | null => ['n', 'u', 'l', 'l']
  | bool true => ['t', 'r', 'u', 'e']
  | bool false => ['f', 'a', 'l', 's', 'e']
  | integer value => integerChars value
  | decimal literal => literal.toList
  | text value => quoted (Spelling.encodeChars value.toList)
  | illFormed spelling => quoted spelling.toList
  | array _ => []
  | object _ => []

/-! ### On one line -/

mutual

def compactChars : Json → List Char
  | array [] => ['[', ']']
  | array (item :: rest) => '[' :: (compactChars item ++ compactItems rest) ++ [']']
  | object [] => ['\x7b', '\x7d']
  | object ((name, value) :: rest) =>
    '\x7b' :: (quoted name.toList ++ ':' :: compactChars value ++ compactMembers rest) ++ ['\x7d']
  | scalar => scalarChars scalar

def compactItems : List Json → List Char
  | [] => []
  | item :: rest => ',' :: compactChars item ++ compactItems rest

def compactMembers : List (String × Json) → List Char
  | [] => []
  | (name, value) :: rest =>
    ',' :: quoted name.toList ++ ':' :: compactChars value ++ compactMembers rest

end

def compact (value : Json) : String :=
  String.ofList (compactChars value)

/-! ### Over many lines -/

/-- A new line at a level. -/
def newLine (level : Nat) : List Char :=
  '\n' :: List.replicate (2 * level) ' '

mutual

/-- The value as it stands inside containers of the given number of levels. -/
def prettyChars (level : Nat) : Json → List Char
  | array [] => ['[', ']']
  | array (item :: rest) =>
    '[' :: (newLine (level + 1) ++ prettyChars (level + 1) item ++ prettyItems (level + 1) rest) ++
      (newLine level ++ [']'])
  | object [] => ['\x7b', '\x7d']
  | object ((name, value) :: rest) =>
    '\x7b' :: (newLine (level + 1) ++ quoted name.toList ++ ':' :: ' ' :: prettyChars (level + 1) value ++
      prettyMembers (level + 1) rest) ++ (newLine level ++ ['\x7d'])
  | scalar => scalarChars scalar

def prettyItems (level : Nat) : List Json → List Char
  | [] => []
  | item :: rest => ',' :: newLine level ++ prettyChars level item ++ prettyItems level rest

def prettyMembers (level : Nat) : List (String × Json) → List Char
  | [] => []
  | (name, value) :: rest =>
    ',' :: newLine level ++ quoted name.toList ++ ':' :: ' ' :: prettyChars level value ++
      prettyMembers level rest

end

def pretty (value : Json) : String :=
  String.ofList (prettyChars 0 value)

end Entitlement.Json
