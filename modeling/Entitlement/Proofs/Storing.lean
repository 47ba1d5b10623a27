/-
This file says which paths can be stored and what is read back of a path that is stored. A path can
be stored if it is not too deep, if slots can hold its names, and if its types begin some sequence
of its component, and then all of it is read back.

A path that is read need not have been stored by the same hierarchies. What is read back has one
step for each type of the sequence under its tag, so of a path that is deeper than this sequence the
last names are lost, and the resource that is read back is wider than the one that was stored.
-/

import Entitlement.Covering
import Entitlement.Proofs.Declarations
import Mathlib.Data.List.TakeDrop

namespace Entitlement

/-! ### Paths that can be stored -/

/-- Whether a number is the tag of a path among the type sequences of its component: zero for a path
without steps, and else the number, counted from one, of the first sequence that its types begin. -/
def IsTag (sequences : List (List String)) (steps : List Step) : Nat → Prop
  | 0 => steps = []
  | index + 1 => steps ≠ [] ∧ (∃ types, sequences[index]? = some types ∧ TypesBegin steps types) ∧
    ∀ earlier < index, ∀ types, sequences[earlier]? = some types → ¬TypesBegin steps types

/-- A path that can be stored for a component with these type sequences. -/
structure Storable (sequences : List (List String)) (steps : List Step) : Prop where
  short : steps.length ≤ 4
  named : ∀ step ∈ steps, Text.isBlankText step.name = false ∧
    Text.sameAsciiCase step.name "__NULL__" = false
  typed : steps = [] ∨ ∃ types ∈ sequences, TypesBegin steps types

theorem Step.isStorable_iff {step : Step} : step.isStorable = true ↔
    Text.isBlankText step.name = false ∧ Text.sameAsciiCase step.name "__NULL__" = false := by
  rw [isStorable, isStorableName, Bool.and_eq_true, Bool.not_eq_true', Bool.not_eq_true']
  rfl

/-- The first sequence that a path begins has its tag. -/
theorem isTag_succ_iff {sequences : List (List String)} {steps : List Step} (some : steps ≠ [])
    {index : Nat} : IsTag sequences steps (index + 1) ↔
      sequences.findIdx? (Hierarchies.begins steps) = .some index := by
  rw [IsTag, and_iff_right some, List.findIdx?_eq_some_iff_getElem]
  constructor
  · rintro ⟨⟨types, isTypes, fits⟩, first⟩
    obtain ⟨inside, rfl⟩ := List.getElem?_eq_some_iff.1 isTypes
    refine ⟨inside, Hierarchies.begins_iff.2 fits, fun earlier before begun => ?_⟩
    exact first earlier before _ (List.getElem?_eq_getElem _) (Hierarchies.begins_iff.1 begun)
  · rintro ⟨inside, fits, first⟩
    refine ⟨⟨_, List.getElem?_eq_getElem inside, Hierarchies.begins_iff.1 fits⟩, ?_⟩
    intro earlier before types isTypes begun
    obtain ⟨_, rfl⟩ := List.getElem?_eq_some_iff.1 isTypes
    exact first earlier before (Hierarchies.begins_iff.2 begun)

/-- A path has a tag if it is empty or its types begin some sequence. -/
theorem exists_isTag_iff {sequences : List (List String)} {steps : List Step} :
    (∃ tag, IsTag sequences steps tag) ↔
      steps = [] ∨ ∃ types ∈ sequences, TypesBegin steps types := by
  constructor
  · rintro ⟨_ | index, isTag⟩
    · exact Or.inl isTag
    · obtain ⟨-, ⟨types, isTypes, fits⟩, -⟩ := isTag
      exact Or.inr ⟨types, List.mem_of_getElem? isTypes, fits⟩
  · rintro (none | ⟨types, member, fits⟩)
    · exact ⟨0, none⟩
    · by_cases none : steps = []
      · exact ⟨0, none⟩
      · have begun : (sequences.findIdx? (Hierarchies.begins steps)).isSome = true := by
          rw [List.findIdx?_isSome, List.any_eq_true]
          exact ⟨types, member, Hierarchies.begins_iff.2 fits⟩
        obtain ⟨index, found⟩ := Option.isSome_iff_exists.1 begun
        exact ⟨index + 1, (isTag_succ_iff none).2 found⟩

namespace Hierarchies

variable {hierarchies : Hierarchies} {component : String} {steps : List Step} {path : StoredPath}

theorem tagFor_eq_ok {tag : Nat} : hierarchies.tagFor component steps = .ok tag ↔
    ∃ sequences, hierarchies.byComponent.get? (Text.normalize component) = some sequences ∧
      IsTag sequences steps tag := by
  simp only [← sequences_eq_ok]
  cases listed : hierarchies.sequences component with
  | error reason =>
    unfold tagFor
    rw [listed]
    simp [bind, Except.bind]
  | ok sequences =>
    simp only [Except.ok.injEq, exists_eq_left']
    by_cases none : steps = []
    · subst none
      have isZero : hierarchies.tagFor component [] = .ok 0 := by
        unfold tagFor
        rw [listed]
        rfl
      rw [isZero]
      cases tag with
      | zero => simp [IsTag]
      | succ index => simp [IsTag]
    · rw [tagFor_of_ne_nil listed none]
      cases tag with
      | zero =>
        refine iff_of_false (fun tagged => ?_) none
        split at tagged
        · cases tagged
        · cases tagged
      | succ index =>
        rw [isTag_succ_iff none]
        split
        · next found => simp [found]
        · next missing => simp [missing]

/-- A path is stored just if it can be for the type sequences of its component. -/
theorem exists_encode_iff : (∃ path, hierarchies.encode component steps = .ok path) ↔
    ∃ sequences, hierarchies.byComponent.get? (Text.normalize component) = some sequences ∧
      Storable sequences steps := by
  simp only [encode_eq_ok, tagFor_eq_ok]
  constructor
  · rintro ⟨path, tag, fits, ⟨sequences, listed, isTag⟩, storable, -⟩
    rw [List.length_map] at fits
    exact ⟨sequences, listed, fits, fun step member => Step.isStorable_iff.1 (storable step member),
      exists_isTag_iff.1 ⟨tag, isTag⟩⟩
  · rintro ⟨sequences, listed, short, named, typed⟩
    obtain ⟨tag, isTag⟩ := exists_isTag_iff.2 typed
    have fits : (steps.map Step.name).length ≤ Step.maxDepth := by rwa [List.length_map]
    exact ⟨_, tag, fits, ⟨sequences, listed, isTag⟩,
      fun step member => Step.isStorable_iff.2 (named step member), rfl⟩

/-- A path can be stored just if its component is registered, it is short enough, slots can hold its
names, and its types begin some sequence. It is stored under the number of the first such sequence
and in as many slots as it has steps, it is read back with the names it had and with the types it
had up to case, and what is read back is stored alike. -/
theorem encode_iff_storable (hierarchies : Hierarchies) (component : String) (steps : List Step) :
    ((∃ path, hierarchies.encode component steps = .ok path) ↔
      ∃ sequences, hierarchies.byComponent.get? (Text.normalize component) = some sequences ∧
        Storable sequences steps) ∧
    ∀ path, hierarchies.encode component steps = .ok path →
      (∃ sequences, hierarchies.byComponent.get? (Text.normalize component) = some sequences ∧
        IsTag sequences steps path.tag) ∧
      path.slots.depth = steps.length ∧
      ∃ decoded, hierarchies.decode component path = .ok decoded ∧ SamePath steps decoded ∧
        hierarchies.encode component decoded = .ok path := by
  refine ⟨exists_encode_iff, fun path encoded => ⟨?_, ?_, decode_encode encoded⟩⟩
  · obtain ⟨tag, fits, tagged, -, rfl⟩ := encode_eq_ok.1 encoded
    exact tagFor_eq_ok.1 tagged
  · rw [Slots.depth, used_of_encode encoded, List.length_map]

/-- A box on a shelf begins the second sequence and the third, but not the first. The name of the
box is the mark of an unused slot without its last character. -/
theorem encode_iff_storable_library :
    ∃ (hierarchies : Hierarchies) (steps : List Step) (path : StoredPath),
      hierarchies.byComponent.get? "library" =
        some [["shelf", "book"], ["shelf", "box", "book"], ["shelf", "box"]] ∧
      steps = [⟨"SHELF", "A"⟩, ⟨"Box", "__NULL_"⟩] ∧
      hierarchies.encode " Library" steps = .ok path ∧ path.tag = 2 ∧
      path.slots.depth = steps.length ∧
      (∃ decoded, hierarchies.decode " Library" path = .ok decoded ∧ SamePath steps decoded ∧
        hierarchies.encode " Library" decoded = .ok path) ∧
      ¬∃ path, hierarchies.encode " Library" [⟨"shelf", "a"⟩, ⟨"box", "__null__"⟩] = .ok path := by
  let hierarchies := ((Hierarchies.empty.register "library" ["shelf", "book"]).register "library"
    ["shelf", "box", "book"]).register "library" ["shelf", "box"]
  let steps : List Step := [⟨"SHELF", "A"⟩, ⟨"Box", "__NULL_"⟩]
  let path : StoredPath := ⟨2, Slots.ofNames ["A", "__NULL_"] (by decide)⟩
  have encoded : hierarchies.encode " Library" steps = .ok path := by decide +kernel
  obtain ⟨-, depth, decoded⟩ := (encode_iff_storable hierarchies " Library" steps).2 path encoded
  refine ⟨hierarchies, steps, path, by decide +kernel, rfl, encoded, rfl, depth, decoded, ?_⟩
  rw [(encode_iff_storable hierarchies " Library" [⟨"shelf", "a"⟩, ⟨"box", "__null__"⟩]).1]
  rintro ⟨sequences, -, storable⟩
  exact absurd (storable.named ⟨"box", "__null__"⟩ (by simp)).2 (by decide +kernel)

/-! ### Paths that are read -/

/-- A path can be read just if there are types under its tag. -/
theorem exists_decode_iff : (∃ steps, hierarchies.decode component path = .ok steps) ↔
    ∃ types, hierarchies.HasTypes component path.tag types := by
  simp only [decode_eq_ok, typesFor_eq_ok]
  constructor
  · rintro ⟨_, types, typed, -⟩
    exact ⟨types, typed⟩
  · rintro ⟨types, typed⟩
    exact ⟨_, types, typed, rfl⟩

end Hierarchies

theorem zipWith_left {Item Other : Type} (items : List Item) (others : List Other) :
    items.zipWith (fun item _ => item) others = items.take others.length := by
  induction items generalizing others with
  | nil => simp
  | cons item rest inductionHypothesis =>
    cases others with
    | nil => rfl
    | cons other further => simp [inductionHypothesis]

/-- Names and types that are put together are those that have a partner. -/
theorem Step.map_zipWith (names types : List String) :
    (names.zipWith (fun name type => Step.mk type name) types).map name =
        names.take types.length ∧
      (names.zipWith (fun name type => Step.mk type name) types).map type =
        types.take names.length := by
  rw [List.map_zipWith, List.map_zipWith]
  refine ⟨zipWith_left names types, ?_⟩
  rw [List.zipWith_comm]
  exact zipWith_left types names

namespace Hierarchies

/-- A path can be read just if its component has types under its tag. What is read back has one
step for each of its names until the types run out, so all names are read back just if there are
not more of them than types. This is so as well of a path that other hierarchies have stored. -/
theorem decode_keeps_names (hierarchies : Hierarchies) (component : String) (path : StoredPath) :
    ((∃ steps, hierarchies.decode component path = .ok steps) ↔
      ∃ types, hierarchies.HasTypes component path.tag types) ∧
    ∀ steps types, hierarchies.decode component path = .ok steps →
      hierarchies.HasTypes component path.tag types →
      steps.map Step.name = path.slots.used.take types.length ∧
      steps.map Step.type = types.take path.slots.depth ∧
      (steps.map Step.name = path.slots.used ↔ path.slots.depth ≤ types.length) ∧
      ∀ (others : Hierarchies) (stored : List Step), others.encode component stored = .ok path →
        (steps.map Step.name = stored.map Step.name ↔ stored.length ≤ types.length) := by
  refine ⟨exists_decode_iff, fun steps types decoded typed => ?_⟩
  obtain ⟨same, sameTyped, rfl⟩ := decode_eq_ok.1 decoded
  obtain rfl : same = types := Except.ok.inj (sameTyped.symm.trans (typesFor_eq_ok.2 typed))
  have whole : path.slots.used.take same.length = path.slots.used ↔
      path.slots.depth ≤ same.length := List.take_eq_self_iff _
  obtain ⟨names, types⟩ := Step.map_zipWith path.slots.used same
  rw [names]
  refine ⟨rfl, types, whole, fun others stored encoded => ?_⟩
  rw [← used_of_encode encoded, whole, Slots.depth, used_of_encode encoded, List.length_map]

/-- A book is read back when pages have been registered below it, and none of it is under a tag that
has no sequence. -/
theorem decode_keeps_names_library :
    ∃ (earlier later : Hierarchies) (path : StoredPath) (steps : List Step),
      earlier.encode "library" [⟨"shelf", "a"⟩, ⟨"book", "b"⟩] = .ok path ∧
      later.HasTypes "library" path.tag ["shelf", "book", "page"] ∧
      later.decode "library" path = .ok steps ∧ steps.map Step.name = ["a", "b"] ∧
      ¬∃ steps, later.decode "library" { path with tag := 2 } = .ok steps := by
  let earlier := Hierarchies.empty.register "library" ["shelf", "book"]
  let later := Hierarchies.empty.register "library" ["shelf", "book", "page"]
  let path : StoredPath := ⟨1, Slots.ofNames ["a", "b"] (by decide)⟩
  let steps : List Step := [⟨"shelf", "a"⟩, ⟨"book", "b"⟩]
  have encoded : earlier.encode "library" steps = .ok path := by decide +kernel
  have typed : later.HasTypes "library" path.tag ["shelf", "book", "page"] :=
    ⟨[["shelf", "book", "page"]], by decide +kernel, rfl⟩
  obtain ⟨found, decoded⟩ := (decode_keeps_names later "library" path).1.2 ⟨_, typed⟩
  obtain ⟨-, -, -, names⟩ := (decode_keeps_names later "library" path).2 found _ decoded typed
  refine ⟨earlier, later, path, found, encoded, typed, decoded,
    (names earlier steps encoded).2 (by decide), ?_⟩
  rw [(decode_keeps_names later "library" { path with tag := 2 }).1]
  rintro ⟨types, sequences, listed, isTypes⟩
  have only : later.byComponent.get? (Text.normalize "library") =
      some [["shelf", "book", "page"]] := by decide +kernel
  rw [only] at listed
  obtain rfl := Option.some.inj listed
  cases isTypes

/-- A book that was stored is read back as its whole shelf when books have been left out since, and
under the tag zero the slots that are used are not read at all. -/
theorem decode_widens_library :
    ∃ (earlier later : Hierarchies) (stored : List Step) (path : StoredPath),
      stored = [⟨"shelf", "a"⟩, ⟨"book", "b"⟩] ∧
      earlier.encode "library" stored = .ok path ∧ path.slots.used = ["a", "b"] ∧
      later.decode "library" path = .ok [⟨"shelf", "a"⟩] ∧
      pathCovers [⟨"shelf", "a"⟩] [⟨"shelf", "a"⟩, ⟨"book", "c"⟩] = true ∧
      pathCovers stored [⟨"shelf", "a"⟩, ⟨"book", "c"⟩] = false ∧
      earlier.decode "library" { path with tag := 0 } = .ok [] := by
  let earlier := Hierarchies.empty.register "library" ["shelf", "book"]
  let later := Hierarchies.empty.register "library" ["shelf"]
  let path : StoredPath := ⟨1, Slots.ofNames ["a", "b"] (by decide)⟩
  exact ⟨earlier, later, _, path, rfl, by decide +kernel, by decide +kernel, by decide +kernel,
    by decide +kernel, by decide +kernel, by decide +kernel⟩

end Hierarchies

end Entitlement
