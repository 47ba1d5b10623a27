/-
This file splits a text at a mark. The parts between marks may be empty, and a text without the
mark is one part.
-/

namespace Entitlement.Text

/-- The parts of a list of characters between the marks. -/
def splitChars (mark : Char) : List Char → List (List Char)
  | [] => [[]]
  | character :: rest =>
    if character = mark then [] :: splitChars mark rest
    else match splitChars mark rest with
      | [] => [[character]]
      | first :: others => (character :: first) :: others

/-- This is how `List.splitOn` splits. -/
theorem splitChars_eq_splitOn (mark : Char) (characters : List Char) :
    splitChars mark characters = characters.splitOn mark := by
  induction characters with
  | nil => rfl
  | cons character rest inductionHypothesis =>
    rw [splitChars, List.splitOn_cons_eq_if_modifyHead, inductionHypothesis]
    simp only [beq_iff_eq]
    split
    · rfl
    · cases parts : rest.splitOn mark with
      | nil => exact absurd parts (List.splitOn_ne_nil mark rest)
      | cons first others => rfl

/-- The parts of a text between the marks. -/
def split (mark : Char) (text : String) : List String :=
  (splitChars mark text.toList).map String.ofList

example : split '.' "a..b" = ["a", "", "b"] := by decide

end Entitlement.Text
