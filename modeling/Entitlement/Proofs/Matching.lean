/-
This file says which topics match a pattern. The segments of the topic must be cut into blocks, one
for each segment of the pattern and in their order, and each block must be of the kind that the
segment of the pattern stands for (`Topic.Fills`). The search for such a cut tries all suffixes of
the topic at each `#`; as every nested call has one segment of the pattern less, it comes to an end.
-/

import Entitlement.Bus.Topic
import Mathlib.Data.List.Forall2

namespace Entitlement

/-! ### Texts that are split -/

namespace Text

/-- The parts of a text at a mark: put together with marks in between they are the text, and there
is no mark in any of them. -/
structure IsSplit (mark : Char) (text : String) (parts : List String) : Prop where
  nonempty : parts ≠ []
  unmarked : ∀ part ∈ parts, mark ∉ part.toList
  joined : (String.singleton mark).intercalate parts = text

theorem not_mem_of_mem_splitChars {mark : Char} {characters part : List Char}
    (member : part ∈ splitChars mark characters) : mark ∉ part := by
  induction characters generalizing part with
  | nil =>
    rw [List.mem_singleton.1 member]
    exact List.not_mem_nil
  | cons character rest inductionHypothesis =>
    rw [splitChars] at member
    split at member
    · rcases List.mem_cons.1 member with rfl | later
      · exact List.not_mem_nil
      · exact inductionHypothesis later
    · next other =>
      split at member
      · rw [List.mem_singleton.1 member, List.mem_singleton]
        exact Ne.symm other
      · next first others parts =>
        rw [parts] at inductionHypothesis
        rcases List.mem_cons.1 member with rfl | later
        · rw [List.mem_cons, not_or]
          exact ⟨Ne.symm other, inductionHypothesis List.mem_cons_self⟩
        · exact inductionHypothesis (List.mem_cons_of_mem _ later)

theorem toList_split (mark : Char) (text : String) :
    (split mark text).map String.toList = splitChars mark text.toList := by
  rw [split, List.map_map]
  simp [Function.comp_def]

/-- A text has the parts that it is split into, and no others. -/
theorem isSplit_iff {mark : Char} {text : String} {parts : List String} :
    IsSplit mark text parts ↔ parts = split mark text := by
  constructor
  · rintro ⟨nonempty, unmarked, rfl⟩
    refine List.map_injective_iff.2 (fun _ _ => String.toList_inj.1) ?_
    rw [toList_split, splitChars_eq_splitOn, String.toList_intercalate, String.toList_singleton,
      List.splitOn_intercalate]
    · simpa using unmarked
    · simpa using nonempty
  · rintro rfl
    refine ⟨?_, fun part member => ?_, String.toList_inj.1 ?_⟩
    · rw [split, splitChars_eq_splitOn]
      simp
    · exact not_mem_of_mem_splitChars (toList_split mark text ▸ List.mem_map_of_mem member)
    · rw [String.toList_intercalate, toList_split, splitChars_eq_splitOn, String.toList_singleton,
        List.intercalate_splitOn]

end Text

namespace Topic

/-! ### Blocks of segments -/

/-- Whether a segment of a pattern stands for a block of segments. -/
def Fills (part : String) (block : List String) : Prop :=
  if part = "#" then True else if part = "*" then block.length = 1 else block = [part]

theorem fills_any (block : List String) : Fills "#" block :=
  trivial

/-- Any other segment than `#` stands for one segment. -/
theorem fills_iff_of_ne {part : String} (single : part ≠ "#") {block : List String} :
    Fills part block ↔ ∃ segment, block = [segment] ∧ (part = "*" ∨ part = segment) := by
  unfold Fills
  rw [if_neg single]
  split
  · next anyOne => simp [anyOne, List.length_eq_one_iff]
  · next other => simp [other]

theorem mem_suffixes {rest segments : List String} :
    rest ∈ suffixes segments ↔ rest <:+ segments := by
  induction segments with
  | nil => rw [suffixes, List.mem_singleton, List.suffix_nil]
  | cons segment others inductionHypothesis =>
    rw [suffixes, List.mem_cons, inductionHypothesis, List.suffix_cons_iff]

/-- The segments of a topic can be cut into blocks for the segments of a pattern if a block for the
first of these is taken off and the others can be cut. -/
theorem exists_blocks_cons {part : String} {pattern segments : List String} :
    (∃ blocks, List.Forall₂ Fills (part :: pattern) blocks ∧ blocks.flatten = segments) ↔
      ∃ block rest, Fills part block ∧ block ++ rest = segments ∧
        ∃ blocks, List.Forall₂ Fills pattern blocks ∧ blocks.flatten = rest := by
  constructor
  · rintro ⟨blocks, fill, rfl⟩
    obtain ⟨block, others, fills, fillRest, rfl⟩ := List.forall₂_cons_left_iff.1 fill
    exact ⟨block, others.flatten, fills, List.flatten_cons.symm, others, fillRest, rfl⟩
  · rintro ⟨block, rest, fills, rfl, blocks, fillRest, rfl⟩
    exact ⟨block :: blocks, .cons fills fillRest, List.flatten_cons⟩

/-- A topic matches a pattern if its segments can be cut into blocks, one for each segment of the
pattern. -/
theorem segmentsMatch_iff {pattern segments : List String} :
    segmentsMatch pattern segments = true ↔
      ∃ blocks, List.Forall₂ Fills pattern blocks ∧ blocks.flatten = segments := by
  induction pattern generalizing segments with
  | nil =>
    rw [segmentsMatch, List.isEmpty_iff]
    simp [eq_comm]
  | cons part pattern inductionHypothesis =>
    rw [exists_blocks_cons]
    unfold segmentsMatch
    simp only [← inductionHypothesis]
    by_cases any : part = "#"
    · subst any
      rw [if_pos rfl, List.any_eq_true]
      constructor
      · rintro ⟨rest, member, isMatch⟩
        obtain ⟨block, rfl⟩ := mem_suffixes.1 member
        exact ⟨block, rest, fills_any block, rfl, isMatch⟩
      · rintro ⟨block, rest, -, rfl, isMatch⟩
        exact ⟨rest, mem_suffixes.2 (List.suffix_append block rest), isMatch⟩
    · simp only [if_neg any, fills_iff_of_ne any]
      cases segments with
      | nil =>
        refine iff_of_false Bool.false_ne_true ?_
        rintro ⟨block, rest, ⟨segment, rfl, -⟩, joined, -⟩
        cases joined
      | cons segment others =>
        simp only [Bool.and_eq_true, Bool.or_eq_true, beq_iff_eq]
        constructor
        · rintro ⟨stands, isMatch⟩
          exact ⟨[segment], others, ⟨segment, rfl, stands⟩, rfl, isMatch⟩
        · rintro ⟨block, rest, ⟨first, rfl, stands⟩, joined, isMatch⟩
          obtain ⟨rfl, rfl⟩ := List.cons.inj joined
          exact ⟨stands, isMatch⟩

/-! ### The end of the search -/

/-- The search with calls nested to some depth, or none if it goes deeper. -/
def searchWithin : Nat → List String → List String → Option Bool
  | 0, _, _ => none
  | _ + 1, [], segments => some segments.isEmpty
  | depth + 1, part :: pattern, segments =>
    if part = "#" then (suffixes segments).anyM (searchWithin depth pattern)
    else match segments with
      | [] => some false
      | segment :: rest =>
        if part == "*" || part == segment then searchWithin depth pattern rest else some false

theorem anyM_eq_some {Item : Type} {items : List Item} {search : Item → Option Bool}
    {answer : Item → Bool} (ends : ∀ item ∈ items, search item = some (answer item)) :
    items.anyM search = some (items.any answer) := by
  induction items with
  | nil => rfl
  | cons item rest inductionHypothesis =>
    obtain ⟨first, others⟩ := List.forall_mem_cons.1 ends
    rw [List.anyM, first, List.any_cons]
    cases answer item with
    | true => rfl
    | false => exact inductionHypothesis others

/-- The search ends in calls that are nested no deeper than the pattern has segments. -/
theorem searchWithin_eq_some {pattern segments : List String} {depth : Nat}
    (deep : pattern.length < depth) :
    searchWithin depth pattern segments = some (segmentsMatch pattern segments) := by
  induction pattern generalizing depth segments with
  | nil =>
    obtain ⟨depth, rfl⟩ := Nat.exists_eq_succ_of_ne_zero (Nat.ne_zero_of_lt deep)
    rw [searchWithin, segmentsMatch]
  | cons part pattern inductionHypothesis =>
    obtain ⟨depth, rfl⟩ := Nat.exists_eq_succ_of_ne_zero (Nat.ne_zero_of_lt deep)
    have ends : ∀ rest, searchWithin depth pattern rest = some (segmentsMatch pattern rest) :=
      fun _ => inductionHypothesis (Nat.lt_of_succ_lt_succ deep)
    unfold searchWithin segmentsMatch
    split
    · exact anyM_eq_some fun rest _ => ends rest
    · cases segments with
      | nil => rfl
      | cons segment rest =>
        dsimp only
        rw [ends]
        cases part == "*" || part == segment
        · rfl
        · rfl

/-- A topic matches a pattern just if the parts of the topic between dots can be cut into
consecutive blocks, one for each part of the pattern, so that the block of `#` is of any length, the
block of `*` of length one, and the block of any other part is this part. The search for this always
comes to an end. -/
theorem isMatch_iff_blocks (pattern topic : String) :
    ∃ parts segments, Text.IsSplit '.' pattern parts ∧ Text.IsSplit '.' topic segments ∧
      (isMatch pattern topic = true ↔
        ∃ blocks, List.Forall₂ Fills parts blocks ∧ blocks.flatten = segments) ∧
      ∀ spare, searchWithin (parts.length + 1 + spare) parts segments =
        some (isMatch pattern topic) := by
  refine ⟨_, _, Text.isSplit_iff.2 rfl, Text.isSplit_iff.2 rfl, segmentsMatch_iff, fun spare => ?_⟩
  exact searchWithin_eq_some (Nat.lt_of_lt_of_le (Nat.lt_succ_self _) (Nat.le_add_right _ spare))

/-- An empty text has one part, and so has the text between two dots. -/
example : isMatch "#.*.b" "a..b" = true ∧ isMatch "*" "" = true ∧ isMatch "a.*" "a" = false := by
  decide

end Topic

end Entitlement
