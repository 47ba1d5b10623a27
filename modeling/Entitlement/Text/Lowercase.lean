/-
This file lower-cases a text by the full rules of Unicode. They differ from a table of single
characters in two places: the capital I with a dot above becomes two characters, and the
capital sigma becomes `ς` where it ends a word and `σ` elsewhere.
-/

import Entitlement.Text.CaseTable

namespace Entitlement.Text

/-- The lower-case form of a character that does not depend on its neighbours. -/
def lowerChar (character : Char) : List Char :=
  if character.toNat < 0x80 then [character.toLower]
  else if character = 'İ' then ['i', '\u0307']
  else match caseRuns.find? (·.holds character.toNat) with
    | some run => [Char.ofNat (run.lowered character.toNat)]
    | none => [character]

def isCased (character : Char) : Bool :=
  inRanges casedRanges character

def isCaseIgnorable (character : Char) : Bool :=
  inRanges caseIgnorableRanges character

/-- Whether the first character that is not passed over is a cased one. -/
def meetsCased (characters : List Char) : Bool :=
  match characters.dropWhile isCaseIgnorable with
  | [] => false
  | character :: _ => isCased character

/-- The lower-case form of a capital sigma between the characters `before`, the nearest first,
and the characters `after`. -/
def lowerSigma (before after : List Char) : Char :=
  if meetsCased before && !meetsCased after then 'ς' else 'σ'

/-- The lower-case forms of the second list, which follows the characters `before`, the
nearest first. -/
def lowerAfter (before : List Char) : List Char → List Char
  | [] => []
  | character :: after =>
    (if character = 'Σ' then [lowerSigma before after] else lowerChar character) ++
      lowerAfter (character :: before) after

/-- The text in lower case. -/
def lower (text : String) : String :=
  String.ofList (lowerAfter [] text.toList)

end Entitlement.Text
