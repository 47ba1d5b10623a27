/-
This file says when covering can be chained. A wildcard in the middle breaks a chain, since it
agrees with every name above it and below it; without one, names, types and actions are handed on
from each step to the next. There remains what lies below the end of the path in the middle: the
path above it may go on there by wildcards of one type, and the path below it by names of another.
-/

import Entitlement.Proofs.Delegation
import Entitlement.Proofs.Including

namespace Entitlement

/-! ### Steps -/

/-- Where there is a step in the middle the chain holds, and where there is none the types decide. -/
theorem Step.coversAt_chain {held : Step} {middle asked : Option Step}
    (plain : ∀ step, middle = some step → isWildcard step.name = false)
    (upper : held.CoversAt middle) (lower : ∀ step, middle = some step → step.CoversAt asked) :
    held.CoversAt asked ↔
      (middle = none → ∀ step, asked = some step → held.sameType step = true) := by
  cases middle with
  | none =>
    have wild : isWildcard held.name = true := upper
    cases asked with
    | none => exact iff_of_true wild nofun
    | some step =>
      simp only [forall_const, Option.some.injEq, forall_eq']
      exact stepCovers_iff.trans (and_iff_left (Or.inr (Or.inl wild)))
  | some step =>
    refine iff_of_true ?_ nofun
    cases asked with
    | none =>
      have wild : isWildcard step.name = true := lower step rfl
      rw [plain step rfl] at wild
      cases wild
    | some other => exact stepCovers_trans (plain step rfl) upper (lower step rfl)

/-! ### Paths and privileges -/

theorem pathCovers_chain {held middle asked : List Step} (plain : IsPlain middle)
    (upper : pathCovers held middle = true) (lower : pathCovers middle asked = true) :
    pathCovers held asked = true ↔
      ∀ (depth : Nat) (step : Step), held[depth]? = some step → middle[depth]? = none →
        ∀ other, asked[depth]? = some other → step.sameType other = true := by
  rw [pathCovers_iff] at upper lower ⊢
  refine forall₃_congr fun depth step found => Step.coversAt_chain ?_ (upper depth step found) ?_
  · exact fun other isMiddle => plain other (List.mem_of_getElem? isMiddle)
  · exact fun other isMiddle => lower depth other isMiddle

namespace Privilege

variable {vocabularies : Vocabularies} {held middle asked : Privilege}

/-- Of two privileges that cover one another by way of a third, in whose path no name stands for
others, the one at the top covers the one at the bottom just if their paths have the same types
wherever both go on below the end of the path in the middle. -/
theorem covers_through (plain : IsPlain middle.steps)
    (upper : held.covers vocabularies middle = true)
    (lower : middle.covers vocabularies asked = true) :
    held.covers vocabularies asked = true ↔
      ∀ (depth : Nat) (step : Step), held.steps[depth]? = some step →
        middle.steps[depth]? = none →
        ∀ other, asked.steps[depth]? = some other → step.sameType other = true := by
  obtain ⟨⟨component, -⟩, -, path⟩ := covers_iff.1 upper
  rw [covers_chain (Text.normalize_eq_of_sameAsciiCase component) upper lower]
  exact pathCovers_chain plain path (covers_iff.1 lower).2.2

/-- To do everything with all books covers reading on one shelf, which covers reading all its books,
and the chain holds because both ends go on by books. -/
theorem covers_through_library :
    ∃ held middle asked : Privilege,
      held.steps = [⟨"shelf", "*"⟩, ⟨"Book", "all"⟩] ∧ middle.steps = [⟨"shelf", "a"⟩] ∧
      asked.steps = [⟨"SHELF", "a"⟩, ⟨"book", "*"⟩] ∧
      held.covers Catalogue.library.vocabularies middle = true ∧
      middle.covers Catalogue.library.vocabularies asked = true ∧
      held.covers Catalogue.library.vocabularies asked = true := by
  let held := { libraryPrivilege "all" with steps := [⟨"shelf", "*"⟩, ⟨"Book", "all"⟩] }
  let middle := libraryReading [⟨"shelf", "a"⟩]
  let asked := libraryReading [⟨"SHELF", "a"⟩, ⟨"book", "*"⟩]
  have plain : IsPlain middle.steps := by decide +kernel
  have upper : held.covers Catalogue.library.vocabularies middle = true := by decide +kernel
  have lower : middle.covers Catalogue.library.vocabularies asked = true := by decide +kernel
  refine ⟨held, middle, asked, rfl, rfl, rfl, upper, lower,
    (covers_through plain upper lower).2 fun depth step found none other isOther => ?_⟩
  match depth with
  | 0 => cases none
  | 1 =>
    obtain rfl := Option.some.inj found
    obtain rfl := Option.some.inj isOther
    decide +kernel
  | _ + 2 => cases found

/-- Reading the books of one shelf covers reading on this shelf, which covers reading a box on it,
and the books do not cover the box. All three are privileges that can be built. -/
theorem covers_not_through_library :
    ∃ held middle asked : Privilege,
      (∀ privilege ∈ [held, middle, asked], privilege.toDraft.build = .ok privilege) ∧
      held.steps = [⟨"shelf", "a"⟩, ⟨"book", "*"⟩] ∧ middle.steps = [⟨"shelf", "a"⟩] ∧
      asked.steps = [⟨"shelf", "a"⟩, ⟨"box", "b"⟩] ∧ IsPlain middle.steps ∧
      held.covers Catalogue.library.vocabularies middle = true ∧
      middle.covers Catalogue.library.vocabularies asked = true ∧
      held.covers Catalogue.library.vocabularies asked = false :=
  ⟨libraryReading [⟨"shelf", "a"⟩, ⟨"book", "*"⟩], libraryReading [⟨"shelf", "a"⟩],
    libraryReading [⟨"shelf", "a"⟩, ⟨"box", "b"⟩], by decide +kernel, rfl, rfl, rfl,
    by decide +kernel, by decide +kernel, by decide +kernel, by decide +kernel⟩

end Privilege

end Entitlement
