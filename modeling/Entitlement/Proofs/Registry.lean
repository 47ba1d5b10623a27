/-
This file says what holds of every vocabulary that can be built and of every registry of
vocabularies: an action is found under its own name, `all` is found under its own, and the
members of `all` are single actions of the component, so `all` is never one of its own members.
Nothing else is known about them; a vocabulary may leave actions out of `all` and may have
further compounds.
-/

import Entitlement.Proofs.Failure
import Entitlement.Proofs.Normalization
import Entitlement.Proofs.Ordered
import Entitlement.Settings.Basic

namespace Entitlement

/-! ### Building a vocabulary -/

/-- Actions that are listed under their names in normal form, each member of a compound being a
single action among them. -/
structure WellNamed (actions : OrderedMap String Action) : Prop where
  name : ∀ key action, actions.get? key = some action → action.name = key
  normal : ∀ key action, actions.get? key = some action → Text.normalize key = key
  member : ∀ key action, actions.get? key = some action → ∀ member ∈ action.members,
    member.isCompound = false ∧ actions.get? member.name = some member

namespace WellNamed

theorem empty : WellNamed OrderedMap.empty where
  name _ _ found := by simp at found
  normal _ _ found := by simp at found
  member _ _ found := by simp at found

theorem addAction {component : String} {actions next : OrderedMap String Action} {action : Action}
    (wellNamed : WellNamed actions) (normal : Text.normalize action.name = action.name)
    (members : ∀ member ∈ action.members,
      member.isCompound = false ∧ actions.get? member.name = some member)
    (added : Vocabulary.addAction component actions action = .ok next) : WellNamed next := by
  unfold Vocabulary.addAction at added
  split at added
  · cases added
  next missing =>
  rw [OrderedMap.contains_iff] at missing
  obtain rfl := Except.ok.inj added
  -- A name that is found stays found, since the new action has a new name.
  have stays : ∀ name found, actions.get? name = some found →
      (actions.insert action.name action).get? name = some found := by
    intro name found listed
    rw [OrderedMap.get?_insert_of_ne _ _ (by rintro rfl; exact missing ⟨found, listed⟩), listed]
  constructor
  · intro key found listed
    rcases OrderedMap.get?_insert_eq_some.1 listed with ⟨rfl, rfl⟩ | ⟨-, earlier⟩
    · rfl
    · exact wellNamed.name key found earlier
  · intro key found listed
    rcases OrderedMap.get?_insert_eq_some.1 listed with ⟨rfl, rfl⟩ | ⟨-, earlier⟩
    · exact normal
    · exact wellNamed.normal key found earlier
  · intro key found listed member isMember
    have known : member.isCompound = false ∧ actions.get? member.name = some member := by
      rcases OrderedMap.get?_insert_eq_some.1 listed with ⟨rfl, rfl⟩ | ⟨-, earlier⟩
      · exact members member isMember
      · exact wellNamed.member key found earlier member isMember
    exact ⟨known.1, stays _ _ known.2⟩

theorem findMember {component name : String} {actions : OrderedMap String Action}
    {member : Action} (wellNamed : WellNamed actions)
    (found : Vocabulary.findMember component actions name = .ok member) :
    member.isCompound = false ∧ actions.get? member.name = some member := by
  unfold Vocabulary.findMember at found
  split at found
  · next base listed =>
    obtain rfl := Except.ok.inj found
    have sameName : base = name := wellNamed.name name (.base base) listed
    exact ⟨rfl, sameName ▸ listed⟩
  · cases found

theorem addCompound {component : String} {actions next : OrderedMap String Action}
    {compound : String × List String} (wellNamed : WellNamed actions)
    (normal : Text.normalize compound.1 = compound.1)
    (added : Vocabulary.addCompound component actions compound = .ok next) : WellNamed next := by
  unfold Vocabulary.addCompound at added
  split at added
  · cases added
  obtain ⟨members, resolved, added⟩ := bind_eq_ok.1 added
  have named : Text.normalize (Action.compound compound.1 members).name =
      (Action.compound compound.1 members).name := normal
  refine wellNamed.addAction named ?_ added
  intro member isMember
  obtain ⟨name, -, found⟩ := mem_of_mapM_eq_ok resolved member isMember
  exact wellNamed.findMember found

/-- The single actions of a vocabulary are listed under their names. -/
theorem of_singles {component : String} {bases : List String} {actions : OrderedMap String Action}
    (added : (bases.map fun name => Action.base (Text.normalize name)).foldlM
      (Vocabulary.addAction component) OrderedMap.empty = .ok actions) : WellNamed actions := by
  refine foldlM_keeps WellNamed.empty ?_ added
  intro action isSingle earlier next wellNamed added
  obtain ⟨name, -, rfl⟩ := List.mem_map.1 isSingle
  have named : Text.normalize (Action.base (Text.normalize name)).name =
      (Action.base (Text.normalize name)).name := Text.normalize_normalize name
  exact wellNamed.addAction named (fun _ isMember => by cases isMember) added

end WellNamed

/-- A vocabulary in which every action, `all` among them, is listed under its own name. -/
structure Vocabulary.WellFormed (vocabulary : Vocabulary) : Prop where
  wellNamed : WellNamed vocabulary.actions
  all : vocabulary.actions.get? Action.allName = some vocabulary.all

theorem Vocabulary.wellFormed_of_build {component : String} {bases : List String}
    {compounds : List (String × List String)} {vocabulary : Vocabulary}
    (built : build component bases compounds = .ok vocabulary) : vocabulary.WellFormed := by
  unfold build at built
  obtain ⟨singles, singlesAdded, built⟩ := bind_eq_ok.1 built
  obtain ⟨actions, groupsAdded, built⟩ := bind_eq_ok.1 built
  have actionsNamed : WellNamed actions := by
    refine foldlM_keeps (WellNamed.of_singles singlesAdded) ?_ groupsAdded
    intro compound isGroup earlier next wellNamed added
    obtain ⟨given, -, rfl⟩ := List.mem_map.1 isGroup
    have named : Text.normalize (Text.normalize given.1, given.2.map Text.normalize).1 =
        (Text.normalize given.1, given.2.map Text.normalize).1 := Text.normalize_normalize given.1
    exact wellNamed.addCompound named added
  split at built
  · next name members found =>
    obtain rfl := pure_eq_ok.1 built
    obtain rfl : name = Action.allName := actionsNamed.name _ _ found
    exact ⟨actionsNamed, found⟩
  · cases built

/-! ### Registries -/

/-- Vocabularies that were registered one by one, each of them built. -/
inductive Vocabularies.Registered : Vocabularies → Prop where
  | empty : Registered Vocabularies.empty
  | register {vocabularies : Vocabularies} {vocabulary : Vocabulary} {component : String}
      {bases : List String} {compounds : List (String × List String)}
      (registered : Registered vocabularies)
      (built : Vocabulary.build component bases compounds = .ok vocabulary) :
      Registered (vocabularies.register vocabulary)

/-- A catalogue with any hierarchies and with vocabularies that were built. -/
def Catalogue.Registered (catalogue : Catalogue) : Prop :=
  catalogue.vocabularies.Registered

/-- The names of the actions that are members of `all`. -/
def ComponentSettings.members (component : ComponentSettings) : List String :=
  if component.allMembers.isEmpty then component.actions else component.allMembers

theorem ComponentSettings.vocabulary_eq_ok {component : ComponentSettings}
    {vocabulary : Vocabulary} : component.vocabulary = .ok vocabulary ↔
      Vocabulary.build component.name component.actions [(Action.allName, component.members)] =
        .ok vocabulary :=
  mapError_eq_ok

/-- The vocabularies that settings describe are built from them. -/
theorem Settings.registered_of_catalogue {settings : Settings} {catalogue : Catalogue}
    (accepted : settings.catalogue = .ok catalogue) : catalogue.Registered := by
  obtain ⟨_, -, accepted⟩ := bind_eq_ok.1 accepted
  have begins : Catalogue.Registered ⟨Vocabularies.empty, Hierarchies.empty⟩ :=
    Vocabularies.Registered.empty
  refine foldlM_keeps begins ?_ accepted
  intro component _ earlier next registered added
  obtain ⟨vocabulary, built, added⟩ := bind_eq_ok.1 added
  obtain rfl := pure_eq_ok.1 added
  exact .register registered (ComponentSettings.vocabulary_eq_ok.1 built)

/-- A catalogue with one component, in which `all` does not include every action. -/
def Catalogue.library : Catalogue where
  vocabularies :=
    match Vocabulary.build "library" ["read", "lend", "mend"] [("all", ["read", "lend"])] with
    | .ok vocabulary => Vocabularies.empty.register vocabulary
    | .error _ => Vocabularies.empty
  hierarchies := Hierarchies.empty.register "library" ["shelf", "book"]

theorem Catalogue.registered_library : Catalogue.library.Registered := by
  unfold Registered library
  dsimp only
  split
  · next vocabulary built => exact .register .empty built
  · exact .empty

/-- The settings of the library. -/
def Settings.library : Settings :=
  { Settings.default with
    components := [⟨"library", ["read", "lend", "mend"], ["read", "lend"], [["shelf", "book"]]⟩] }

theorem Settings.catalogue_library : Settings.library.catalogue = .ok Catalogue.library :=
  rfl

namespace Vocabularies

theorem Registered.wellFormed {vocabularies : Vocabularies} (registered : vocabularies.Registered)
    {key : String} {vocabulary : Vocabulary}
    (found : vocabularies.byComponent.get? key = some vocabulary) : vocabulary.WellFormed := by
  induction registered with
  | empty => simp [Vocabularies.empty] at found
  | register registered built inductionHypothesis =>
    rcases OrderedMap.get?_insert_eq_some.1 found with ⟨-, rfl⟩ | ⟨-, earlier⟩
    · exact Vocabulary.wellFormed_of_build built
    · exact inductionHypothesis earlier

theorem component_eq_ok {vocabularies : Vocabularies} {component : String}
    {vocabulary : Vocabulary} : vocabularies.component component = .ok vocabulary ↔
      vocabularies.byComponent.get? (Text.normalize component) = some vocabulary := by
  unfold Vocabularies.component
  split <;> simp_all

theorem all_eq_ok {vocabularies : Vocabularies} {component : String} {all : Action} :
    vocabularies.all component = .ok all ↔
      ∃ vocabulary, vocabularies.component component = .ok vocabulary ∧ vocabulary.all = all :=
  map_eq_ok

theorem resolve_eq_ok {vocabularies : Vocabularies} {component name : String} {action : Action} :
    vocabularies.resolve component name = .ok action ↔
      ∃ vocabulary, vocabularies.component component = .ok vocabulary ∧
        vocabulary.resolve? name = some action := by
  unfold resolve
  cases vocabularies.component component with
  | error reason => simp
  | ok vocabulary =>
    cases found : vocabulary.resolve? name with
    | none => simp [found]
    | some other => simp [found]

/-- A component is known under every spelling of its name. -/
theorem all_congr {vocabularies : Vocabularies} {component other : String}
    (same : Text.normalize component = Text.normalize other) {all : Action} :
    vocabularies.all component = .ok all ↔ vocabularies.all other = .ok all := by
  simp only [all_eq_ok, component_eq_ok, same]

theorem resolve_congr {vocabularies : Vocabularies} {component other name : String}
    (same : Text.normalize component = Text.normalize other) {action : Action} :
    vocabularies.resolve component name = .ok action ↔
      vocabularies.resolve other name = .ok action := by
  simp only [resolve_eq_ok, component_eq_ok, same]

/-- The compound `all` has its name. -/
theorem name_of_all {vocabularies : Vocabularies} {component : String} {all : Action}
    (isAll : vocabularies.all component = .ok all) : all.name = Action.allName := by
  obtain ⟨vocabulary, -, rfl⟩ := all_eq_ok.1 isAll
  rfl

theorem all_of_resolve {vocabularies : Vocabularies} {component name : String} {action : Action}
    (resolved : vocabularies.resolve component name = .ok action) :
    ∃ all, vocabularies.all component = .ok all := by
  obtain ⟨vocabulary, found, -⟩ := resolve_eq_ok.1 resolved
  exact ⟨vocabulary.all, all_eq_ok.2 ⟨vocabulary, found, rfl⟩⟩

namespace Registered

variable {vocabularies : Vocabularies} (registered : vocabularies.Registered)

include registered

theorem wellFormed_of_component {component : String} {vocabulary : Vocabulary}
    (found : vocabularies.component component = .ok vocabulary) : vocabulary.WellFormed :=
  registered.wellFormed (component_eq_ok.1 found)

/-- An action is resolved by its name in any spelling. -/
theorem name_eq_normalize {component name : String} {action : Action}
    (resolved : vocabularies.resolve component name = .ok action) :
    action.name = Text.normalize name := by
  obtain ⟨vocabulary, found, listed⟩ := resolve_eq_ok.1 resolved
  exact (registered.wellFormed_of_component found).wellNamed.name _ _ listed

/-- The name of a resolved action is in normal form and resolves to the same action. -/
theorem resolve_name {component name : String} {action : Action}
    (resolved : vocabularies.resolve component name = .ok action) :
    vocabularies.resolve component action.name = .ok action := by
  obtain ⟨vocabulary, found, listed⟩ := resolve_eq_ok.1 resolved
  refine resolve_eq_ok.2 ⟨vocabulary, found, ?_⟩
  rw [Vocabulary.resolve?, registered.name_eq_normalize resolved, Text.normalize_normalize]
  exact listed

theorem normalize_name {component name : String} {action : Action}
    (resolved : vocabularies.resolve component name = .ok action) :
    Text.normalize action.name = action.name := by
  rw [registered.name_eq_normalize resolved, Text.normalize_normalize]

theorem lower_name {component name : String} {action : Action}
    (resolved : vocabularies.resolve component name = .ok action) :
    Text.lower action.name = action.name := by
  rw [← registered.normalize_name resolved]
  exact Text.lower_lower _

theorem resolve_all {component : String} {all : Action}
    (isAll : vocabularies.all component = .ok all) :
    vocabularies.resolve component Action.allName = .ok all := by
  obtain ⟨vocabulary, found, rfl⟩ := all_eq_ok.1 isAll
  have wellFormed := registered.wellFormed_of_component found
  refine resolve_eq_ok.2 ⟨vocabulary, found, ?_⟩
  rw [Vocabulary.resolve?, wellFormed.wellNamed.normal _ _ wellFormed.all]
  exact wellFormed.all

/-- A member of `all` is an action of the component other than `all`. -/
theorem resolve_member {component : String} {all member : Action}
    (isAll : vocabularies.all component = .ok all) (isMember : member ∈ all.members) :
    vocabularies.resolve component member.name = .ok member ∧ member.name ≠ Action.allName := by
  obtain ⟨vocabulary, found, rfl⟩ := all_eq_ok.1 isAll
  have wellFormed := registered.wellFormed_of_component found
  obtain ⟨single, listed⟩ := wellFormed.wellNamed.member _ _ wellFormed.all member isMember
  constructor
  · refine resolve_eq_ok.2 ⟨vocabulary, found, ?_⟩
    rw [Vocabulary.resolve?, wellFormed.wellNamed.normal _ _ listed]
    exact listed
  · intro isAllName
    rw [isAllName, wellFormed.all] at listed
    rw [← Option.some.inj listed] at single
    cases single

end Registered

end Vocabularies

end Entitlement
