/-
This file holds the blank characters and the trimming of a text. Names of roles, groups,
components and actions are compared without the blanks around them, and a name of blanks
alone counts as missing.
-/

namespace Entitlement.Text

/-- Unicode's `White_Space` characters. The zero width space is not one of them. -/
def isBlank (character : Char) : Bool :=
  let code := character.toNat
  (9 ≤ code && code ≤ 13) || code == 0x20 || code == 0x85 || code == 0xA0 || code == 0x1680 ||
    (0x2000 ≤ code && code ≤ 0x200A) || code == 0x2028 || code == 0x2029 || code == 0x202F ||
    code == 0x205F || code == 0x3000

/-- The characters without the blanks at either end. -/
def trimChars (characters : List Char) : List Char :=
  ((characters.dropWhile isBlank).reverse.dropWhile isBlank).reverse

/-- The text without the blanks at either end. -/
def trim (text : String) : String :=
  String.ofList (trimChars text.toList)

/-- Whether the text has no character other than blanks. -/
def isBlankText (text : String) : Bool :=
  text.toList.all isBlank

example : trim " \u3000a b\t" = "a b" := by decide
example : isBlankText "\u200b" = false := by decide

end Entitlement.Text
