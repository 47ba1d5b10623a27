/-
This file proves that privileges can be kept in hash tables. Their resources are compared up to the
case of A to Z but hashed by their lower-case forms, which follow all the rules of Unicode. So it
must be shown that the case of these letters makes no difference to the lower-case form of any
character, not even to that of a sigma, which depends on its neighbours. Then what is fed to a hash
table is the same for equal privileges, and the table holds them as a list does in which repetitions
are dropped.
-/

import Entitlement.Proofs.ReadingBack

namespace Entitlement

/-- What is fed to a hash table goes with equality: that is an equivalence, and for equal values the
table is fed the same. -/
structure GoesWithEquality {Item : Type} [BEq Item] (hashInput : Item → List HashInput) : Prop where
  equivalence : Equivalence fun item other : Item => (item == other) = true
  alike : ∀ item other : Item, (item == other) = true → hashInput item = hashInput other

/-! ### Equal values are hashed alike -/

/-- Texts that differ at most in the case of A to Z have one lower-case form. -/
theorem Text.lower_eq_of_sameAsciiCase {left right : String}
    (same : sameAsciiCase left right = true) : lower left = lower right := by
  have folded : ∀ text : String, lower text = String.ofList (lowerAfter [] (foldAscii text)) := by
    intro text
    unfold lower foldAscii
    rw [← lowerAfter_map_toLower [], List.map_nil]
  rw [folded, folded, sameAsciiCase_iff.1 same]

theorem Step.hashInput_eq_of_beq {step other : Step} (same : (step == other) = true) :
    step.hashInput = other.hashInput := by
  obtain ⟨types, names⟩ := Step.beq_iff.1 same
  unfold hashInput
  rw [Text.lower_eq_of_sameAsciiCase types, Text.lower_eq_of_sameAsciiCase names]

instance : LawfulHashable Step where
  hash_eq _ _ same := congrArg (hash (α := List HashInput)) (Step.hashInput_eq_of_beq same)

theorem flatMap_hashInput_eq {steps others : List Step}
    (same : List.Forall₂ (fun step other : Step => (step == other) = true) steps others) :
    steps.flatMap Step.hashInput = others.flatMap Step.hashInput := by
  induction same with
  | nil => rfl
  | cons first _ inductionHypothesis =>
    rw [List.flatMap_cons, List.flatMap_cons, Step.hashInput_eq_of_beq first, inductionHypothesis]

namespace Privilege

theorem beq_symm {left right : Privilege} (same : (left == right) = true) :
    (right == left) = true := by
  obtain ⟨component, service, action, scope, option, steps⟩ := beq_iff.1 same
  have back := (forall₂_of_beq steps).flip.imp fun _ _ equal => PartialEquivBEq.symm equal
  exact beq_iff.2 ⟨component.symm, service.symm, action.symm, scope.symm, option.symm,
    beq_of_forall₂ back⟩

instance : EquivBEq Privilege where
  rfl {privilege} := beq_refl privilege
  symm := beq_symm
  trans := beq_trans

theorem hashInput_eq_of_beq {left right : Privilege} (same : (left == right) = true) :
    left.hashInput = right.hashInput := by
  obtain ⟨component, service, action, scope, option, steps⟩ := beq_iff.1 same
  have pairs := forall₂_of_beq steps
  unfold hashInput
  rw [component, service, action, scope, option, pairs.length_eq, flatMap_hashInput_eq pairs]

instance : LawfulHashable Privilege where
  hash_eq _ _ same := congrArg (hash (α := List HashInput)) (hashInput_eq_of_beq same)

/-- Names in lower case are not just equal up to case. -/
theorem Made.names_eq {left right : Privilege} (made : left.Made) (otherMade : right.Made)
    (same : (left == right) = true) : left.steps.map Step.name = right.steps.map Step.name := by
  obtain ⟨-, -, -, -, -, steps⟩ := beq_iff.1 same
  exact ((SamePath.iff_beq made.normal.lowered otherMade.normal.lowered).2 steps).names_eq.symm

end Privilege

/-! ### Hash tables -/

section HashSet

variable {Item : Type} [BEq Item] [Hashable Item] [EquivBEq Item] [LawfulHashable Item]

theorem contains_insert_of_mem {set : Std.HashSet Item} {first : Item} (known : first ∈ set)
    (item : Item) : (set.insert first).contains item = set.contains item := by
  rw [Std.HashSet.contains_insert]
  cases equal : first == item with
  | true =>
    rw [← Std.HashSet.contains_congr equal, Std.HashSet.mem_iff_contains.1 known, Bool.true_or]
  | false => rw [Bool.false_or]

/-- Of the items that are put into a hash table it takes those that it does not hold yet, each
once. -/
theorem toList_insertMany_perm (set : Std.HashSet Item) (items : List Item) :
    (set.insertMany items).toList.Perm
      (set.toList ++ (items.filter fun item => !set.contains item).eraseDups) := by
  induction items generalizing set with
  | nil => simp
  | cons first rest inductionHypothesis =>
    rw [Std.HashSet.insertMany_cons]
    refine (inductionHypothesis (set.insert first)).trans ?_
    have inserted := Std.HashSet.toList_insert_perm (m := set) (k := first)
    by_cases known : first ∈ set
    · have passed : (!set.contains first) ≠ true := by simpa using known
      rw [if_pos known] at inserted
      simp only [contains_insert_of_mem known]
      rw [List.filter_cons, if_neg passed]
      exact inserted.append_right _
    · have added : (!set.contains first) = true := by simpa using known
      have others : ∀ item, (!(set.insert first).contains item) =
          (!item == first && !set.contains item) := by
        intro item
        rw [Std.HashSet.contains_insert, Bool.not_or, BEq.comm]
      rw [if_neg known] at inserted
      simp only [others]
      rw [List.filter_cons, if_pos added, List.eraseDups_cons, List.filter_filter]
      exact (inserted.append_right _).trans List.perm_middle.symm

/-- A hash table of the items of a list holds what the list does without repetitions. -/
theorem toList_ofList_perm (items : List Item) :
    (Std.HashSet.ofList items).toList.Perm items.eraseDups := by
  have inserted := toList_insertMany_perm (∅ : Std.HashSet Item) items
  rw [← Std.HashSet.ofList_eq_insertMany_empty] at inserted
  simpa using inserted

end HashSet

/-- The privileges of records are what a hash table of them holds. -/
theorem Catalogue.ofRecords_perm {catalogue : Catalogue} {records : List Record}
    {held : List Privilege} (read : catalogue.ofRecords records = .ok held) :
    ∃ privileges, records.mapM (fun record => catalogue.ofKey record.key) = .ok privileges ∧
      (Std.HashSet.ofList privileges).toList.Perm held := by
  obtain ⟨privileges, each, rfl⟩ := map_eq_ok.1 read
  exact ⟨privileges, each, toList_ofList_perm privileges⟩

/-- Steps and privileges can be kept in hash tables: their equality is an equivalence, and equal
ones are hashed alike, since texts that are equal up to the case of A to Z have one lower-case form.
The names of equal privileges do not even differ in case. So the privileges of records, each once,
are those of a hash table. -/
theorem equal_hashed_alike :
    GoesWithEquality Step.hashInput ∧ GoesWithEquality Privilege.hashInput ∧
      (∀ left right : String, Text.sameAsciiCase left right = true →
        Text.lower left = Text.lower right) ∧
      (∀ left right : Privilege, left.Made → right.Made → (left == right) = true →
        left.steps.map Step.name = right.steps.map Step.name) ∧
      ∀ (catalogue : Catalogue) (records : List Record) (held : List Privilege),
        catalogue.ofRecords records = .ok held →
        ∃ privileges, records.mapM (fun record => catalogue.ofKey record.key) = .ok privileges ∧
          (Std.HashSet.ofList privileges).toList.Perm held := by
  have steps : GoesWithEquality Step.hashInput :=
    ⟨⟨fun _ => ReflBEq.rfl, PartialEquivBEq.symm, PartialEquivBEq.trans⟩,
      fun _ _ => Step.hashInput_eq_of_beq⟩
  have privileges : GoesWithEquality Privilege.hashInput :=
    ⟨⟨Privilege.beq_refl, Privilege.beq_symm, Privilege.beq_trans⟩,
      fun _ _ => Privilege.hashInput_eq_of_beq⟩
  exact ⟨steps, privileges, fun _ _ => Text.lower_eq_of_sameAsciiCase,
    fun _ _ => Privilege.Made.names_eq, fun _ _ _ => Catalogue.ofRecords_perm⟩

/-- The letter before the sigma is written in two ways. Either makes it the last of a word, the two
privileges are hashed alike, and a hash table of what is read back has one privilege. -/
theorem equal_hashed_alike_sigma :
    ∃ (draft other : PrivilegeDraft) (left right : Privilege) (record : Record),
      draft.steps = some [⟨"SHELF", "AΣ"⟩] ∧ other.steps = some [⟨"Shelf", "aΣ"⟩] ∧
        draft.build = .ok left ∧ other.build = .ok right ∧ left ≠ right ∧
        (left == right) = true ∧ left.hashInput = right.hashInput ∧
        left.steps.map Step.name = right.steps.map Step.name ∧
        Text.lower "Σ" = "σ" ∧ Text.lower "AΣ" = "aς" ∧ Text.lower "AΣ" = Text.lower "aΣ" ∧
        ∃ privileges,
          [record, record].mapM (fun record => Catalogue.library.ofKey record.key) =
            .ok privileges ∧
          (Std.HashSet.ofList privileges).toList.Perm [libraryReading [⟨"shelf", "aς"⟩]] := by
  let draft : PrivilegeDraft :=
    { (libraryPrivilege "read").toDraft with steps := some [⟨"SHELF", "AΣ"⟩] }
  let other : PrivilegeDraft := { draft with steps := some [⟨"Shelf", "aΣ"⟩] }
  let left := libraryReading [⟨"SHELF", "aς"⟩]
  let right := libraryReading [⟨"Shelf", "aς"⟩]
  let key : RecordKey :=
    ⟨"library", "lending", "read", "*", some true, ⟨1, Slots.ofNames ["aς"] (by decide)⟩⟩
  let record : Record := ⟨key, "olga", default⟩
  have built : draft.build = .ok left := by decide +kernel
  have otherBuilt : other.build = .ok right := by decide +kernel
  have equal : (left == right) = true := by decide +kernel
  have read : Catalogue.library.ofRecords [record, record] =
      .ok [libraryReading [⟨"shelf", "aς"⟩]] := by decide +kernel
  obtain ⟨-, ⟨-, alike⟩, lowered, names, held⟩ := equal_hashed_alike
  exact ⟨draft, other, left, right, record, rfl, rfl, built, otherBuilt, by decide, equal,
    alike left right equal, names left right (.built built) (.built otherBuilt) equal,
    by decide +kernel, by decide +kernel, lowered "AΣ" "aΣ" (by decide +kernel),
    held Catalogue.library [record, record] _ read⟩

end Entitlement
