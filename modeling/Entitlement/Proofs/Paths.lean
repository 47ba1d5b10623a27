/-
This file proves that a path that can be stored is found again. What decoding gives may spell
the types as the hierarchy does and not as the path did, but it has the same names, fits the same
sequence first, and so is stored under the same tag and in the same slots.
-/

import Entitlement.Hierarchy
import Entitlement.Proofs.Failure
import Entitlement.Proofs.Normalization
import Mathlib.Data.List.Forall2
import Mathlib.Data.List.TakeWhile

namespace Entitlement

/-! ### Paths in lower case -/

namespace Step

@[simp] theorem lowered_lowered (step : Step) : step.lowered.lowered = step.lowered := by
  rw [lowered, lowered, Text.lower_lower]

@[simp] theorem map_lowered_map_lowered (steps : List Step) :
    (steps.map lowered).map lowered = steps.map lowered := by
  rw [List.map_map]
  exact List.map_congr_left fun step _ => step.lowered_lowered

theorem map_lowered_eq_self {steps : List Step} :
    steps.map lowered = steps ↔ ∀ step ∈ steps, Text.lower step.name = step.name := by
  have asMap : steps.map lowered = steps ↔ steps.map lowered = steps.map id := by
    rw [List.map_id]
  rw [asMap, List.map_inj_left]
  refine forall₂_congr fun step _ => ?_
  obtain ⟨type, name⟩ := step
  simp [lowered]

end Step

/-! ### Paths that differ in how their types are spelled -/

/-- Steps of the same name whose types differ at most in the case of A to Z. -/
def Step.Respelled (step other : Step) : Prop :=
  other.name = step.name ∧ Text.sameAsciiCase step.type other.type = true

/-- Paths that go through the same names by types that differ at most in case. -/
def SamePath : List Step → List Step → Prop :=
  List.Forall₂ Step.Respelled

namespace SamePath

theorem names_eq {steps others : List Step} (same : SamePath steps others) :
    others.map Step.name = steps.map Step.name := by
  induction same with
  | nil => rfl
  | cons first _ inductionHypothesis =>
    rw [List.map_cons, List.map_cons, first.1, inductionHypothesis]

theorem isStorable {steps others : List Step} (same : SamePath steps others)
    (storable : ∀ step ∈ steps, step.isStorable = true) :
    ∀ step ∈ others, step.isStorable = true := by
  have named : ∀ path : List Step, (∀ step ∈ path, step.isStorable = true) ↔
      ∀ name ∈ path.map Step.name, Step.isStorableName name = true := by
    intro path
    rw [List.forall_mem_map]
    rfl
  rw [named, same.names_eq, ← named]
  exact storable

/-- Paths of the same types begin the same sequences. -/
theorem begins_eq {steps others : List Step} (same : SamePath steps others) (types : List String) :
    Hierarchies.begins others types = Hierarchies.begins steps types := by
  unfold Hierarchies.begins
  rw [List.Forall₂.length_eq same]
  congr 1
  induction same generalizing types with
  | nil => rfl
  | @cons step other _ _ first _ inductionHypothesis =>
    cases types with
    | nil => rfl
    | cons type rest =>
      rw [List.zip_cons_cons, List.zip_cons_cons, List.all_cons, List.all_cons,
        inductionHypothesis]
      congr 1
      rw [Bool.eq_iff_iff, Text.sameAsciiCase_iff, Text.sameAsciiCase_iff,
        Text.sameAsciiCase_iff.1 first.2]

theorem isEmpty_eq {steps others : List Step} (same : SamePath steps others) :
    others.isEmpty = steps.isEmpty := by
  cases same <;> rfl

end SamePath

/-! ### The slots of a path -/

theorem Step.find?_not_isStorable {steps : List Step} :
    (steps.find? fun step => !step.isStorable) = none ↔
      ∀ step ∈ steps, step.isStorable = true := by
  simp [List.find?_eq_none]

theorem Step.name_ne_unusedMark {step : Step} (storable : step.isStorable = true) :
    step.name ≠ unusedMark := by
  intro isMark
  rw [isStorable, isStorableName, isMark, Text.sameAsciiCase_refl, Bool.not_true,
    Bool.and_false] at storable
  cases storable

theorem Slots.used_ofNames {names : List String} (fits : names.length ≤ Step.maxDepth)
    (used : ∀ name ∈ names, name ≠ Step.unusedMark) : (ofNames names fits).used = names := by
  have unused : (List.replicate (Step.maxDepth - names.length) Step.unusedMark).takeWhile
      (· != Step.unusedMark) = [] := by
    rw [List.takeWhile_eq_nil_iff]
    intro positive
    simp
  rw [Slots.used, ofNames, List.takeWhile_append_of_pos (by simpa using used), unused,
    List.append_nil]

namespace Hierarchies

/-! ### Tags -/

theorem sequences_eq_ok {hierarchies : Hierarchies} {component : String}
    {sequences : List (List String)} : hierarchies.sequences component = .ok sequences ↔
      hierarchies.byComponent.get? (Text.normalize component) = some sequences := by
  unfold Hierarchies.sequences Text.normalize
  split
  · next found => simp [found]
  · next missing => simp [missing]

/-- Whether a component has these types under a tag: no types under zero, and else the sequence of
that number. -/
def HasTypes (hierarchies : Hierarchies) (component : String) (tag : Nat) (types : List String) :
    Prop :=
  ∃ sequences, hierarchies.byComponent.get? (Text.normalize component) = some sequences ∧
    ([] :: sequences)[tag]? = some types

theorem typesFor_eq_ok {hierarchies : Hierarchies} {component : String} {tag : Nat}
    {types : List String} :
    hierarchies.typesFor component tag = .ok types ↔ hierarchies.HasTypes component tag types := by
  unfold typesFor HasTypes typesByTag
  simp only [bind_eq_ok, map_eq_ok, ← sequences_eq_ok]
  constructor
  · rintro ⟨_, ⟨sequences, listed, rfl⟩, found⟩
    refine ⟨sequences, listed, ?_⟩
    split at found
    · next other isOther =>
      obtain rfl := pure_eq_ok.1 found
      exact isOther
    · cases found
  · rintro ⟨sequences, listed, found⟩
    refine ⟨_, ⟨sequences, listed, rfl⟩, ?_⟩
    rw [found]
    rfl

/-- The types under the tag of a path are begun by the path. -/
theorem typesFor_of_tagFor {hierarchies : Hierarchies} {component : String} {steps : List Step}
    {tag : Nat} (tagged : hierarchies.tagFor component steps = .ok tag) :
    ∃ types, hierarchies.typesFor component tag = .ok types ∧ begins steps types = true := by
  obtain ⟨sequences, listed, tagged⟩ := bind_eq_ok.1 tagged
  -- Both kinds of tag are a place in the list of sequences that begins with the empty one.
  have place : ∃ types, ([] :: sequences)[tag]? = some types ∧ begins steps types = true := by
    split at tagged
    · next none =>
      obtain rfl := pure_eq_ok.1 tagged
      rw [List.isEmpty_iff.1 none]
      exact ⟨[], rfl, rfl⟩
    · split at tagged
      · next index found =>
        obtain rfl := pure_eq_ok.1 tagged
        obtain ⟨inside, begun, -⟩ := List.findIdx?_eq_some_iff_getElem.1 found
        exact ⟨sequences[index], List.getElem?_eq_getElem inside, begun⟩
      · cases tagged
  obtain ⟨types, found, begun⟩ := place
  exact ⟨types, typesFor_eq_ok.2 ⟨sequences, sequences_eq_ok.1 listed, found⟩, begun⟩

theorem tagFor_respelled {hierarchies : Hierarchies} {component : String}
    {steps others : List Step} {tag : Nat} (same : SamePath steps others)
    (tagged : hierarchies.tagFor component steps = .ok tag) :
    hierarchies.tagFor component others = .ok tag := by
  obtain ⟨sequences, listed, tagged⟩ := bind_eq_ok.1 tagged
  refine bind_eq_ok.2 ⟨sequences, listed, ?_⟩
  rw [same.isEmpty_eq, show begins others = begins steps from funext same.begins_eq]
  split at tagged
  · next none =>
    rw [if_pos none]
    exact tagged
  · next some =>
    rw [if_neg some]
    split at tagged
    · exact tagged
    · cases tagged

/-! ### Storing and finding again -/

theorem encode_eq_ok {hierarchies : Hierarchies} {component : String} {steps : List Step}
    {path : StoredPath} : hierarchies.encode component steps = .ok path ↔
      ∃ tag, ∃ fits : (steps.map Step.name).length ≤ Step.maxDepth,
        hierarchies.tagFor component steps = .ok tag ∧ (∀ step ∈ steps, step.isStorable = true) ∧
          ⟨tag, Slots.ofNames (steps.map Step.name) fits⟩ = path := by
  unfold encode
  split
  · next fits =>
    rw [bind_eq_ok]
    refine exists_congr fun tag => ?_
    cases found : steps.find? fun step => !step.isStorable with
    | none =>
      constructor
      · rintro ⟨tagged, stored⟩
        have storable := Step.find?_not_isStorable.1 found
        exact ⟨by rwa [List.length_map], tagged, storable, pure_eq_ok.1 stored⟩
      · rintro ⟨_, tagged, -, stored⟩
        exact ⟨tagged, pure_eq_ok.2 stored⟩
    | some step =>
      have notStorable : ¬∀ step ∈ steps, step.isStorable = true := by
        rw [← Step.find?_not_isStorable, found]
        simp
      simp [notStorable]
  · next deep => simp [deep]

/-- The names of a path that is stored are those in its slots. -/
theorem used_of_encode {hierarchies : Hierarchies} {component : String} {steps : List Step}
    {path : StoredPath} (encoded : hierarchies.encode component steps = .ok path) :
    path.slots.used = steps.map Step.name := by
  obtain ⟨tag, fits, -, storable, rfl⟩ := encode_eq_ok.1 encoded
  refine Slots.used_ofNames fits ?_
  rw [List.forall_mem_map]
  exact fun step member => Step.name_ne_unusedMark (storable step member)

theorem decode_eq_ok {hierarchies : Hierarchies} {component : String} {steps : List Step}
    {path : StoredPath} : hierarchies.decode component path = .ok steps ↔
      ∃ types, hierarchies.typesFor component path.tag = .ok types ∧
        path.slots.used.zipWith (fun name type => ⟨type, name⟩) types = steps := by
  unfold decode
  rw [bind_eq_ok]
  simp only [pure_eq_ok]

/-- The names of a path with the types of a sequence that it begins. -/
theorem samePath_zipWith {steps : List Step} {types : List String}
    (begun : begins steps types = true) :
    SamePath steps ((steps.map Step.name).zipWith (fun name type => ⟨type, name⟩) types) := by
  unfold begins at begun
  rw [Bool.and_eq_true, decide_eq_true_iff] at begun
  obtain ⟨long, typed⟩ := begun
  induction steps generalizing types with
  | nil => exact .nil
  | cons step rest inductionHypothesis =>
    cases types with
    | nil => simp at long
    | cons type others =>
      rw [List.zip_cons_cons, List.all_cons, Bool.and_eq_true] at typed
      rw [List.map_cons, List.zipWith_cons_cons]
      exact .cons ⟨rfl, typed.1⟩ (inductionHypothesis (Nat.le_of_succ_le_succ long) typed.2)

/-- Paths that differ in how their types are spelled are stored alike. -/
theorem encode_respelled {hierarchies : Hierarchies} {component : String}
    {steps others : List Step} {path : StoredPath} (same : SamePath steps others)
    (encoded : hierarchies.encode component steps = .ok path) :
    hierarchies.encode component others = .ok path := by
  obtain ⟨tag, fits, tagged, storable, rfl⟩ := encode_eq_ok.1 encoded
  refine encode_eq_ok.2 ⟨tag, by rw [same.names_eq]; exact fits, tagFor_respelled same tagged,
    same.isStorable storable, ?_⟩
  simp only [same.names_eq]

/-- What is stored of a path decodes to the path, up to the spelling of its types, and is what is
stored of the decoded one. -/
theorem decode_encode {hierarchies : Hierarchies} {component : String} {steps : List Step}
    {path : StoredPath} (encoded : hierarchies.encode component steps = .ok path) :
    ∃ decoded, hierarchies.decode component path = .ok decoded ∧ SamePath steps decoded ∧
      hierarchies.encode component decoded = .ok path := by
  obtain ⟨tag, fits, tagged, -, isPath⟩ := encode_eq_ok.1 encoded
  obtain ⟨types, typed, begun⟩ := typesFor_of_tagFor tagged
  have same := samePath_zipWith begun
  rw [← used_of_encode encoded] at same
  refine ⟨_, decode_eq_ok.2 ⟨types, by rw [← isPath]; exact typed, rfl⟩, ?_⟩
  exact ⟨same, encode_respelled same encoded⟩

end Hierarchies

end Entitlement
