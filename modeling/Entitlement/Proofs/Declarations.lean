/-
This file says that a catalogue has what its settings declare and nothing else. The names of a
component and of its actions are known up to blanks around them and to case, and they are brought
into normal form in three places, by the check of the settings, by the vocabularies and by the
hierarchies. Because the check lets no two components have one name, none of them takes the place of
another in the vocabularies or adds its type sequences to those of another.
-/

import Entitlement.Proofs.Paths
import Entitlement.Proofs.Registry

namespace Entitlement

/-! ### What is declared -/

/-- Whether the types of the steps are those at the beginning of the sequence, up to the case of A
to Z. -/
def TypesBegin (steps : List Step) (types : List String) : Prop :=
  ∃ leading rest, types = leading ++ rest ∧
    List.Forall₂ (fun step type => Text.sameAsciiCase step.type type = true) steps leading

namespace Catalogue

/-- A catalogue that has under the name what is declared of the component. -/
structure Reflects (catalogue : Catalogue) (declared : ComponentSettings) (name : String) :
    Prop where
  resolves : ∀ asked, (∃ action, catalogue.vocabularies.resolve name asked = .ok action) ↔
    Text.normalize asked = Action.allName ∨
      ∃ listed ∈ declared.actions, Text.normalize asked = Text.normalize listed
  all : ∃ all, catalogue.vocabularies.all name = .ok all ∧
    all.members = declared.members.map fun member => .base (Text.normalize member)
  typesFor : ∀ index types, declared.hierarchies[index]? = some types →
    catalogue.hierarchies.typesFor name (index + 1) = .ok types
  tagFor : ∀ steps, steps ≠ [] → ∀ index types, declared.hierarchies[index]? = some types →
    TypesBegin steps types →
    (∀ earlier < index, ∀ other, declared.hierarchies[earlier]? = some other →
      ¬TypesBegin steps other) →
    catalogue.hierarchies.tagFor name steps = .ok (index + 1)
  unmatched : ∀ steps, steps ≠ [] → (∀ types ∈ declared.hierarchies, ¬TypesBegin steps types) →
    catalogue.hierarchies.tagFor name steps = .error (.unmatchedTypes name (steps.map Step.type))

/-- A catalogue that has nothing under the name. -/
structure Lacks (catalogue : Catalogue) (name : String) : Prop where
  component : catalogue.vocabularies.component name = .error (.unknownComponent name)
  all : catalogue.vocabularies.all name = .error (.unknownComponent name)
  resolve : ∀ asked,
    catalogue.vocabularies.resolve name asked = .error (.unknownComponent name)
  tagFor : ∀ steps, catalogue.hierarchies.tagFor name steps = .error (.unknownComponent name)
  typesFor : ∀ tag, catalogue.hierarchies.typesFor name tag = .error (.unknownComponent name)
  decode : ∀ path, catalogue.hierarchies.decode name path = .error (.unknownComponent name)
  /-- A path that is too deep is refused before anything is looked for. -/
  encode : ∀ steps, steps.length ≤ Step.maxDepth →
    catalogue.hierarchies.encode name steps = .error (.unknownComponent name)

end Catalogue

/-! ### The vocabulary of a component -/

namespace Vocabulary

theorem contains_addAction {component : String} {actions next : OrderedMap String Action}
    {action : Action} (added : addAction component actions action = .ok next) (key : String) :
    next.contains key = true ↔ key = action.name ∨ actions.contains key = true := by
  unfold addAction at added
  split at added
  · cases added
  · obtain rfl := Except.ok.inj added
    exact OrderedMap.contains_insert

theorem contains_foldlM_addAction {component : String} {singles : List Action}
    {actions next : OrderedMap String Action}
    (added : singles.foldlM (addAction component) actions = .ok next) (key : String) :
    next.contains key = true ↔
      (∃ action ∈ singles, key = action.name) ∨ actions.contains key = true := by
  induction singles generalizing actions with
  | nil =>
    obtain rfl := pure_eq_ok.1 added
    simp
  | cons action rest inductionHypothesis =>
    rw [List.foldlM_cons, bind_eq_ok] at added
    obtain ⟨middle, first, added⟩ := added
    rw [inductionHypothesis added, contains_addAction first, List.exists_mem_cons_iff,
      or_left_comm, or_assoc]

theorem findMember_eq_ok {component name : String} {actions : OrderedMap String Action}
    {member : Action} (wellNamed : WellNamed actions)
    (found : findMember component actions name = .ok member) : member = .base name := by
  unfold findMember at found
  split at found
  · next base listed =>
    obtain rfl := Except.ok.inj found
    exact congrArg Action.base (wellNamed.name name (.base base) listed)
  · cases found

/-- A compound is added with single actions of the names of its members. -/
theorem addCompound_eq_ok {component : String} {actions next : OrderedMap String Action}
    {compound : String × List String} (wellNamed : WellNamed actions)
    (added : addCompound component actions compound = .ok next) :
    next = actions.insert compound.1 (.compound compound.1 (compound.2.map .base)) := by
  unfold addCompound at added
  split at added
  · cases added
  next new =>
  obtain ⟨members, found, added⟩ := bind_eq_ok.1 added
  have named : members = compound.2.map .base := by
    rw [← List.forall₂_eq_eq_eq, List.forall₂_map_right_iff]
    exact (forall₂_of_mapM_eq_ok found).flip.imp
      fun _ _ isMember => findMember_eq_ok wellNamed isMember
  rw [addAction, named] at added
  split at added
  · cases added
  · exact (Except.ok.inj added).symm

end Vocabulary

namespace ComponentSettings

variable {component : ComponentSettings} {vocabulary : Vocabulary}

/-- The vocabulary of a component has the declared actions and `all`, and `all` has the declared
members in their order. -/
theorem vocabulary_declared (built : component.vocabulary = .ok vocabulary) :
    vocabulary.component = Text.normalize component.name ∧
      (∀ key, vocabulary.actions.contains key = true ↔ key = Action.allName ∨
        ∃ listed ∈ component.actions, key = Text.normalize listed) ∧
      vocabulary.allMembers =
        component.members.map fun member => .base (Text.normalize member) := by
  obtain ⟨singles, singlesAdded, built⟩ := bind_eq_ok.1 (vocabulary_eq_ok.1 built)
  obtain ⟨actions, groupsAdded, built⟩ := bind_eq_ok.1 built
  have isAll : Text.normalize Action.allName = Action.allName := by decide +kernel
  obtain ⟨middle, added, rest⟩ := bind_eq_ok.1 groupsAdded
  obtain rfl := pure_eq_ok.1 rest
  obtain rfl := Vocabulary.addCompound_eq_ok (WellNamed.of_singles singlesAdded) added
  dsimp only at built
  rw [isAll, OrderedMap.get?_insert_self] at built
  obtain rfl := pure_eq_ok.1 built
  refine ⟨rfl, fun key => ?_, ?_⟩
  · rw [OrderedMap.contains_insert, Vocabulary.contains_foldlM_addAction singlesAdded]
    simp [OrderedMap.contains, Action.name]
  · rw [List.map_map]
    rfl

end ComponentSettings

/-! ### Components one after the other -/

namespace Hierarchies

variable {hierarchies : Hierarchies} {component : String}

theorem get?_register (types : List String) (key : String) :
    (hierarchies.register component types).byComponent.get? key =
      if Text.normalize component = key then
        some ((hierarchies.byComponent.get? key).getD [] ++ [types])
      else hierarchies.byComponent.get? key := by
  unfold register
  dsimp only
  rw [OrderedMap.get?_insert_if]
  refine ite_congr rfl (fun same => ?_) fun _ => rfl
  rw [← same]
  rfl

/-- Sequences that are registered one by one come after those of the component. -/
theorem get?_foldl_register {sequences : List (List String)} (nonempty : sequences ≠ [])
    (key : String) :
    (sequences.foldl (fun hierarchies types => hierarchies.register component types)
        hierarchies).byComponent.get? key =
      if Text.normalize component = key then
        some ((hierarchies.byComponent.get? key).getD [] ++ sequences)
      else hierarchies.byComponent.get? key := by
  induction sequences generalizing hierarchies with
  | nil => exact absurd rfl nonempty
  | cons types rest inductionHypothesis =>
    rw [List.foldl_cons]
    cases rest with
    | nil => exact get?_register types key
    | cons second further =>
      rw [inductionHypothesis (List.cons_ne_nil _ _), get?_register]
      split
      · rw [Option.getD_some, List.append_assoc]
        rfl
      · rfl

end Hierarchies

namespace ComponentSettings

variable {component : ComponentSettings} {earlier : List String}

/-- A component that passes the check has a new name, a vocabulary and some type sequence. -/
theorem check_eq_ok (checked : component.check earlier = .ok ()) :
    Text.normalize component.name ∉ earlier ∧ component.hierarchies ≠ [] ∧
      ∃ vocabulary, component.vocabulary = .ok vocabulary := by
  unfold check at checked
  dsimp only [bind, Except.bind, throw, throwThe, MonadExceptOf.throw] at checked
  split at checked
  · cases checked
  split at checked
  · cases checked
  next new =>
  split at checked
  · cases checked
  split at checked
  · cases checked
  next some =>
  split at checked
  · cases checked
  obtain ⟨vocabulary, built, -⟩ := bind_eq_ok.1 checked
  refine ⟨fun member => new (List.contains_iff_mem.2 member), fun none => some ?_,
    vocabulary, built⟩
  rw [none]
  rfl

end ComponentSettings

/-- What a catalogue has to do with the components that were added to it. -/
structure Catalogue.Declares (catalogue : Catalogue) (components : List ComponentSettings) :
    Prop where
  present : ∀ component ∈ components, ∃ vocabulary, component.vocabulary = .ok vocabulary ∧
    catalogue.vocabularies.byComponent.get? (Text.normalize component.name) = some vocabulary ∧
    catalogue.hierarchies.byComponent.get? (Text.normalize component.name) =
      some component.hierarchies
  absent : ∀ key, (∀ component ∈ components, Text.normalize component.name ≠ key) →
    catalogue.vocabularies.byComponent.get? key = none ∧
      catalogue.hierarchies.byComponent.get? key = none

namespace Catalogue.Declares

variable {catalogue : Catalogue} {declared : List ComponentSettings}

theorem empty : Declares ⟨Vocabularies.empty, Hierarchies.empty⟩ [] where
  present _ member := by cases member
  absent _ _ := ⟨rfl, rfl⟩

theorem congr {others : List ComponentSettings} (declares : catalogue.Declares declared)
    (same : ∀ component, component ∈ others ↔ component ∈ declared) :
    catalogue.Declares others where
  present component member := declares.present component ((same component).1 member)
  absent key apart := declares.absent key fun component member =>
    apart component ((same component).2 member)

/-- A component of a new name neither takes anything from the others nor adds to them. -/
theorem addComponent (declares : catalogue.Declares declared) {component : ComponentSettings}
    (checked : component.check (declared.map fun other => Text.normalize other.name) = .ok ()) :
    ∃ next, Settings.addComponent catalogue component = .ok next ∧
      next.Declares (component :: declared) := by
  obtain ⟨new, nonempty, vocabulary, built⟩ := ComponentSettings.check_eq_ok checked
  have named := (ComponentSettings.vocabulary_declared built).1
  have apart : ∀ other ∈ declared, Text.normalize other.name ≠ Text.normalize component.name :=
    fun other member same => new (List.mem_map.2 ⟨other, member, same⟩)
  obtain ⟨-, noSequences⟩ := declares.absent (Text.normalize component.name) apart
  refine ⟨_, bind_eq_ok.2 ⟨vocabulary, built, rfl⟩, ?_, ?_⟩
  · intro other member
    dsimp only [Vocabularies.register]
    rw [OrderedMap.get?_insert_if, Hierarchies.get?_foldl_register nonempty, named]
    rcases List.mem_cons.1 member with rfl | earlier
    · rw [if_pos rfl, if_pos rfl, noSequences]
      exact ⟨vocabulary, built, rfl, rfl⟩
    · have differs := (apart other earlier).symm
      rw [if_neg differs, if_neg differs]
      exact declares.present other earlier
  · intro key others
    obtain ⟨differs, earlier⟩ := List.forall_mem_cons.1 others
    dsimp only [Vocabularies.register]
    rw [OrderedMap.get?_insert_if, Hierarchies.get?_foldl_register nonempty, named, if_neg differs,
      if_neg differs]
    exact declares.absent key earlier

/-- Components that pass the check can all be added. -/
theorem foldlM_addComponent (declares : catalogue.Declares declared)
    {components : List ComponentSettings} (checked : ComponentSettings.checkAll
      (declared.map fun other => Text.normalize other.name) components = .ok ()) :
    ∃ next, components.foldlM Settings.addComponent catalogue = .ok next ∧
      next.Declares (components.reverse ++ declared) := by
  induction components generalizing catalogue declared with
  | nil => exact ⟨catalogue, rfl, declares⟩
  | cons component rest inductionHypothesis =>
    obtain ⟨_, first, others⟩ := bind_eq_ok.1 checked
    obtain ⟨middle, added, declaresMore⟩ := declares.addComponent first
    obtain ⟨next, folded, declaresAll⟩ := inductionHypothesis declaresMore others
    refine ⟨next, ?_, ?_⟩
    · rw [List.foldlM_cons, added]
      exact folded
    · rw [List.reverse_cons, List.append_assoc]
      exact declaresAll

end Catalogue.Declares

/-! ### What can be looked up -/

theorem Hierarchies.begins_iff {steps : List Step} {types : List String} :
    begins steps types = true ↔ TypesBegin steps types := by
  induction steps generalizing types with
  | nil => exact iff_of_true (by simp [begins]) ⟨[], types, rfl, .nil⟩
  | cons step others inductionHypothesis =>
    cases types with
    | nil =>
      refine iff_of_false (by simp [begins]) ?_
      rintro ⟨leading, rest, parts, same⟩
      cases same
      cases parts
    | cons type further =>
      have first : begins (step :: others) (type :: further) =
          (Text.sameAsciiCase step.type type && begins others further) := by
        simp only [begins, List.length_cons, List.zip_cons_cons, List.all_cons,
          Nat.add_le_add_iff_right]
        exact Bool.and_left_comm ..
      rw [first, Bool.and_eq_true, inductionHypothesis]
      constructor
      · rintro ⟨same, leading, rest, rfl, others⟩
        exact ⟨type :: leading, rest, rfl, .cons same others⟩
      · rintro ⟨leading, rest, parts, same⟩
        cases same with
        | cons same others =>
          obtain ⟨rfl, rfl⟩ := List.cons.inj parts
          exact ⟨same, _, rest, rfl, others⟩

namespace Hierarchies

variable {hierarchies : Hierarchies} {component : String}

theorem typesFor_succ {sequences : List (List String)}
    (found : hierarchies.sequences component = .ok sequences) {index : Nat} {types : List String}
    (isTypes : sequences[index]? = some types) :
    hierarchies.typesFor component (index + 1) = .ok types :=
  typesFor_eq_ok.2 ⟨sequences, sequences_eq_ok.1 found, isTypes⟩

theorem tagFor_of_ne_nil {sequences : List (List String)}
    (found : hierarchies.sequences component = .ok sequences) {steps : List Step}
    (some : steps ≠ []) : hierarchies.tagFor component steps =
      match sequences.findIdx? (begins steps) with
      | .some index => .ok (index + 1)
      | none => .error (.unmatchedTypes component (steps.map Step.type)) := by
  unfold tagFor
  rw [found]
  show (if steps.isEmpty = true then _ else _) = _
  rw [if_neg fun empty => some (List.isEmpty_iff.1 empty)]
  rfl

end Hierarchies

namespace Catalogue.Declares

variable {catalogue : Catalogue} {components : List ComponentSettings} {name : String}

theorem reflects (declares : catalogue.Declares components) {declared : ComponentSettings}
    (member : declared ∈ components) (same : Text.normalize name = Text.normalize declared.name) :
    catalogue.Reflects declared name := by
  obtain ⟨vocabulary, built, isVocabulary, isSequences⟩ := declares.present declared member
  obtain ⟨-, listed, members⟩ := ComponentSettings.vocabulary_declared built
  rw [← same] at isVocabulary isSequences
  have found := Vocabularies.component_eq_ok.2 isVocabulary
  have sequences := Hierarchies.sequences_eq_ok.2 isSequences
  constructor
  case resolves =>
    intro asked
    rw [← listed, OrderedMap.contains_iff]
    refine exists_congr fun action => ?_
    rw [Vocabularies.resolve_eq_ok]
    simp only [found, Except.ok.injEq, exists_eq_left']
    rfl
  case all => exact ⟨vocabulary.all, Vocabularies.all_eq_ok.2 ⟨vocabulary, found, rfl⟩, members⟩
  case typesFor =>
    exact fun index types isTypes => Hierarchies.typesFor_succ sequences isTypes
  case tagFor =>
    intro steps some index types isTypes fits others
    obtain ⟨inside, rfl⟩ := List.getElem?_eq_some_iff.1 isTypes
    have first : declared.hierarchies.findIdx? (Hierarchies.begins steps) = .some index := by
      rw [List.findIdx?_eq_some_iff_getElem]
      refine ⟨inside, Hierarchies.begins_iff.2 fits, fun earlier before begun => ?_⟩
      exact others earlier before _ (List.getElem?_eq_getElem _) (Hierarchies.begins_iff.1 begun)
    rw [Hierarchies.tagFor_of_ne_nil sequences some, first]
  case unmatched =>
    intro steps some none
    have nowhere : declared.hierarchies.findIdx? (Hierarchies.begins steps) = .none := by
      rw [List.findIdx?_eq_none_iff]
      intro types member
      rw [← Bool.not_eq_true, Hierarchies.begins_iff]
      exact none types member
    rw [Hierarchies.tagFor_of_ne_nil sequences some, nowhere]

theorem lacks (declares : catalogue.Declares components)
    (apart : ∀ declared ∈ components, Text.normalize declared.name ≠ Text.normalize name) :
    catalogue.Lacks name := by
  obtain ⟨noVocabulary, noSequences⟩ := declares.absent (Text.normalize name) apart
  have component : catalogue.vocabularies.component name = .error (.unknownComponent name) := by
    unfold Vocabularies.component
    rw [noVocabulary]
  have sequences : catalogue.hierarchies.sequences name = .error (.unknownComponent name) := by
    unfold Text.normalize at noSequences
    unfold Hierarchies.sequences
    rw [noSequences]
  have byTag : catalogue.hierarchies.typesByTag name = .error (.unknownComponent name) := by
    unfold Hierarchies.typesByTag
    rw [sequences]
    rfl
  have tagFor : ∀ steps,
      catalogue.hierarchies.tagFor name steps = .error (.unknownComponent name) := by
    intro steps
    unfold Hierarchies.tagFor
    rw [sequences]
    rfl
  have typesFor : ∀ tag,
      catalogue.hierarchies.typesFor name tag = .error (.unknownComponent name) := by
    intro tag
    unfold Hierarchies.typesFor
    rw [byTag]
    rfl
  refine ⟨component, ?_, fun asked => ?_, tagFor, typesFor, fun path => ?_, fun steps short => ?_⟩
  · unfold Vocabularies.all
    rw [component]
    rfl
  · unfold Vocabularies.resolve
    rw [component]
  · unfold Hierarchies.decode
    rw [typesFor]
    rfl
  · unfold Hierarchies.encode
    rw [dif_pos short, tagFor]
    rfl

end Catalogue.Declares

namespace Settings

theorem checkAll_of_check {settings : Settings} (checked : settings.check = .ok ()) :
    ComponentSettings.checkAll [] settings.components = .ok () := by
  unfold check at checked
  dsimp only [bind, Except.bind, throw, throwThe, MonadExceptOf.throw] at checked
  split at checked
  · cases checked
  split at checked
  · cases checked
  split at checked
  · cases checked
  exact checked

/-- Settings that pass the check have a catalogue, in which their components are declared. -/
theorem catalogue_declares {settings : Settings} (checked : settings.check = .ok ()) :
    ∃ catalogue, settings.catalogue = .ok catalogue ∧
      catalogue.Declares settings.components := by
  obtain ⟨catalogue, folded, declares⟩ :=
    Catalogue.Declares.empty.foldlM_addComponent (checkAll_of_check checked)
  refine ⟨catalogue, bind_eq_ok.2 ⟨(), checked, folded⟩, declares.congr fun component => ?_⟩
  rw [List.append_nil, List.mem_reverse]

/-- Settings are turned into a catalogue just if they pass the check, and are refused for the same
reason otherwise. The catalogue has what they declare, under each spelling of the name of a
component, and nothing under any other name. -/
theorem catalogue_reflects (settings : Settings) :
    settings.catalogue.map (fun _ => ()) = settings.check ∧
      ∀ catalogue, settings.catalogue = .ok catalogue →
        (∀ declared ∈ settings.components, ∀ name,
          Text.normalize name = Text.normalize declared.name →
            catalogue.Reflects declared name) ∧
        ∀ name, (∀ declared ∈ settings.components,
          Text.normalize declared.name ≠ Text.normalize name) → catalogue.Lacks name := by
  cases checked : settings.check with
  | error reason =>
    have refused : settings.catalogue = .error reason := by
      unfold Settings.catalogue
      rw [checked]
      rfl
    rw [refused]
    exact ⟨rfl, nofun⟩
  | ok =>
    obtain ⟨catalogue, accepted, declares⟩ := catalogue_declares checked
    rw [accepted]
    refine ⟨rfl, ?_⟩
    rintro _ ⟨⟩
    exact ⟨fun _ member _ same => declares.reflects member same, fun _ => declares.lacks⟩

/-- The library is known under any spelling of its name, and its archive is not. -/
theorem catalogue_reflects_library :
    Settings.library.catalogue = .ok Catalogue.library ∧
      Catalogue.library.Reflects
        ⟨"library", ["read", "lend", "mend"], ["read", "lend"], [["shelf", "book"]]⟩ " LIBRARY" ∧
      Catalogue.library.Lacks "archive" := by
  obtain ⟨reflects, lacks⟩ :=
    (catalogue_reflects Settings.library).2 Catalogue.library catalogue_library
  refine ⟨catalogue_library, reflects _ (List.mem_singleton_self _) " LIBRARY" ?_,
    lacks "archive" fun declared member => ?_⟩
  · decide +kernel
  · obtain rfl := List.mem_singleton.1 member
    decide +kernel

end Settings

end Entitlement
