/-
This file compares texts without regard to the case of the letters A to Z. Every other
character stands for itself: `É` and `é` differ here, and so do `K` and the Kelvin sign.
-/

namespace Entitlement.Text

/-- The characters with A to Z replaced by a to z. -/
def foldAscii (text : String) : List Char :=
  text.toList.map Char.toLower

/-- Whether two texts are the same up to the case of A to Z. -/
def sameAsciiCase (left right : String) : Bool :=
  foldAscii left == foldAscii right

theorem sameAsciiCase_iff {left right : String} :
    sameAsciiCase left right = true ↔ foldAscii left = foldAscii right :=
  beq_iff_eq

theorem sameAsciiCase_refl (text : String) : sameAsciiCase text text = true :=
  sameAsciiCase_iff.2 rfl

theorem sameAsciiCase_comm (left right : String) :
    sameAsciiCase left right = sameAsciiCase right left :=
  Bool.beq_comm

theorem sameAsciiCase_trans {first second third : String}
    (left : sameAsciiCase first second = true) (right : sameAsciiCase second third = true) :
    sameAsciiCase first third = true :=
  sameAsciiCase_iff.2 ((sameAsciiCase_iff.1 left).trans (sameAsciiCase_iff.1 right))

end Entitlement.Text
