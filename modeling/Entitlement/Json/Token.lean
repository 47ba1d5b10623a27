/-
This file holds the tokens of a JSON text and the scanner that finds them. Blanks between the
tokens are dropped here, once and for all, so a value written on one line and the same value
written over many lines have the same tokens.

The scanner reads one character at a time. A word and a number end where a character comes
that cannot belong to them, and are judged then as a whole. A text is kept as it is spelled:
its escapes are well made, but they need not stand for characters.
-/

import Entitlement.Json.Numeral
import Entitlement.Json.Spelling

namespace Entitlement.Json

inductive Token where
  | openBrace
  | closeBrace
  | openBracket
  | closeBracket
  | comma
  | colon
  | null
  | bool (value : Bool)
  | integer (value : Int)
  | decimal (literal : String)
  | text (spelling : String)
deriving DecidableEq, Repr

/-! ### Numbers -/

/-- The characters that a number is made of. -/
def isNumberChar (character : Char) : Bool :=
  character.isDigit || character == '-' || character == '+' || character == '.' ||
    character == 'e' || character == 'E'

/-- The number that the characters write. -/
def number? (characters : List Char) : Option Token :=
  (Numeral.ofChars? characters).map fun numeral =>
    match numeral.integer? with
    | some value => .integer value
    | none => .decimal (String.ofList characters)

/-! ### Words -/

/-- The value that a bare word stands for. -/
def word? (characters : List Char) : Option Token :=
  if characters = ['n', 'u', 'l', 'l'] then some .null
  else if characters = ['t', 'r', 'u', 'e'] then some (.bool true)
  else if characters = ['f', 'a', 'l', 's', 'e'] then some (.bool false)
  else none

/-! ### The scanner -/

/-- Where the scanner stands. Characters read so far come the latest first. -/
inductive Mode where
  | between
  | word (soFar : List Char)
  | number (soFar : List Char)
  | text (soFar : List Char)
  /-- After a backslash. -/
  | escape (soFar : List Char)
  /-- After `\u`, with the number of digits that must still come. -/
  | unit (soFar : List Char) (missing : Nat)

/-- The tokens found, the latest first, and where the scanner stands. -/
structure Scan where
  found : List Token
  mode : Mode

/-- One character where a token may start. -/
def Scan.start (found : List Token) (character : Char) : Option Scan :=
  match character with
  | ' ' => some ⟨found, .between⟩
  | '\t' => some ⟨found, .between⟩
  | '\n' => some ⟨found, .between⟩
  | '\r' => some ⟨found, .between⟩
  | '\x7b' => some ⟨.openBrace :: found, .between⟩
  | '\x7d' => some ⟨.closeBrace :: found, .between⟩
  | '[' => some ⟨.openBracket :: found, .between⟩
  | ']' => some ⟨.closeBracket :: found, .between⟩
  | ',' => some ⟨.comma :: found, .between⟩
  | ':' => some ⟨.colon :: found, .between⟩
  | '"' => some ⟨found, .text []⟩
  | _ =>
    if character.isDigit || character == '-' then some ⟨found, .number [character]⟩
    else if character.isAlpha then some ⟨found, .word [character]⟩
    else none

/-- One more character. -/
def Scan.step (scan : Scan) (character : Char) : Option Scan :=
  match scan.mode with
  | .between => start scan.found character
  | .word soFar =>
    if character.isAlpha then some ⟨scan.found, .word (character :: soFar)⟩
    else (word? soFar.reverse).bind fun token => start (token :: scan.found) character
  | .number soFar =>
    if isNumberChar character then some ⟨scan.found, .number (character :: soFar)⟩
    else (number? soFar.reverse).bind fun token => start (token :: scan.found) character
  | .text soFar =>
    if character = '"' then some ⟨.text (String.ofList soFar.reverse) :: scan.found, .between⟩
    else if character = '\\' then some ⟨scan.found, .escape (character :: soFar)⟩
    else if Spelling.isPlain character then some ⟨scan.found, .text (character :: soFar)⟩
    else none
  | .escape soFar =>
    if character = 'u' then some ⟨scan.found, .unit (character :: soFar) 4⟩
    else (Spelling.escaped? character).map fun _ => ⟨scan.found, .text (character :: soFar)⟩
  | .unit soFar missing =>
    (Text.hexValue? character).map fun _ =>
      ⟨scan.found,
        if missing ≤ 1 then .text (character :: soFar)
        else .unit (character :: soFar) (missing - 1)⟩

/-- The tokens, the latest first, if the text may end here. -/
def Scan.finish (scan : Scan) : Option (List Token) :=
  match scan.mode with
  | .between => some scan.found
  | .word soFar => (word? soFar.reverse).map (· :: scan.found)
  | .number soFar => (number? soFar.reverse).map (· :: scan.found)
  | _ => none

/-- The tokens of a text. -/
def tokens? (characters : List Char) : Option (List Token) :=
  ((characters.foldlM Scan.step ⟨[], .between⟩).bind Scan.finish).map List.reverse

end Entitlement.Json
