/-
This file proves what the covering of privileges does not depend on. It does not tell apart
privileges that are equal up to the case of A to Z, so a list of privileges covers the same
whether or not such repetitions are dropped from it; and a privilege that has been stored and
found again covers what it covered before, though its action and its types may be spelled
differently.
-/

import Entitlement.Proofs.Coherence
import Entitlement.Proofs.Drafts

namespace Entitlement

/-! ### Names and steps -/

theorem Text.eq_star_of_foldAscii {name : String} (same : foldAscii name = ['*']) : name = "*" := by
  obtain ⟨character, single, lowered⟩ := List.map_eq_singleton_iff.1 same
  have isStar : character = '*' := by
    unfold Char.toLower at lowered
    split at lowered
    · next upper =>
      have low : 65 ≤ character.val.toNat := UInt32.le_iff_toNat_le.1 upper.1
      have high : character.val.toNat ≤ 90 := UInt32.le_iff_toNat_le.1 upper.2
      have value : (character.val.toNat + 32) % 2 ^ 32 = 42 :=
        congrArg (fun other : Char => other.val.toNat) lowered
      omega
    · exact lowered
  rw [← String.ofList_toList (s := name), single, isStar]

theorem isWildcard_congr {left right : String} (same : Text.sameAsciiCase left right = true) :
    isWildcard left = isWildcard right := by
  have folded := Text.sameAsciiCase_iff.1 same
  have star : left = "*" ↔ right = "*" := by
    constructor
    · rintro rfl
      exact Text.eq_star_of_foldAscii folded.symm
    · rintro rfl
      exact Text.eq_star_of_foldAscii folded
  unfold isWildcard Text.sameAsciiCase
  rw [folded]
  congr 1
  rw [Bool.eq_iff_iff, beq_iff_eq, beq_iff_eq, star]

theorem Step.beq_iff {step other : Step} : (step == other) = true ↔
    Text.sameAsciiCase step.type other.type = true ∧
      Text.sameAsciiCase step.name other.name = true :=
  Bool.and_eq_true_iff

theorem stepCovers_congr {step other : Step} (same : (step == other) = true) (asked : Step) :
    stepCovers step asked = stepCovers other asked := by
  obtain ⟨types, names⟩ := Step.beq_iff.1 same
  unfold stepCovers Step.sameType
  unfold Text.sameAsciiCase
  rw [Text.sameAsciiCase_iff.1 types, Text.sameAsciiCase_iff.1 names, isWildcard_congr names]

theorem pathCovers_congr {steps others : List Step}
    (same : List.Forall₂ (fun step other : Step => (step == other) = true) steps others)
    (asked : List Step) : pathCovers steps asked = pathCovers others asked := by
  induction same generalizing asked with
  | nil => rfl
  | cons first _ inductionHypothesis =>
    cases asked with
    | nil =>
      rw [pathCovers, pathCovers, isWildcard_congr (Step.beq_iff.1 first).2, inductionHypothesis]
    | cons step further =>
      rw [pathCovers, pathCovers, stepCovers_congr first, inductionHypothesis]

theorem forall₂_of_beq {steps others : List Step} (same : (steps == others) = true) :
    List.Forall₂ (fun step other : Step => (step == other) = true) steps others := by
  induction steps generalizing others with
  | nil =>
    cases others with
    | nil => exact .nil
    | cons => cases same
  | cons step rest inductionHypothesis =>
    cases others with
    | nil => cases same
    | cons other further =>
      rw [List.cons_beq_cons, Bool.and_eq_true] at same
      exact .cons same.1 (inductionHypothesis same.2)

theorem SamePath.forall₂_beq {steps others : List Step} (same : SamePath steps others) :
    List.Forall₂ (fun step other : Step => (step == other) = true) steps others :=
  List.Forall₂.imp (fun _ _ respelled =>
    Step.beq_iff.2 ⟨respelled.2, respelled.1 ▸ Text.sameAsciiCase_refl _⟩) same

/-! ### Privileges -/

/-- The action `all` covers all actions, and it is covered by no other. -/
theorem actionCovers_iff {all held asked : Action}
    (isAll : all.name = Action.allName) : actionCovers all held asked = true ↔
      held.name = Action.allName ∨ (asked.name ≠ Action.allName ∧ held.name = asked.name) := by
  unfold actionCovers
  rw [Bool.or_eq_true, Bool.and_eq_true, Bool.not_eq_true', ← Bool.not_eq_true, Action.beq_iff,
    Action.beq_iff, Action.beq_iff, isAll]

namespace Privilege

theorem beq_iff {held other : Privilege} : (held == other) = true ↔
    held.component = other.component ∧ held.service = other.service ∧
      held.action = other.action ∧ held.scope = other.scope ∧
      held.grantOption = other.grantOption ∧ (held.steps == other.steps) = true := by
  show (held.component == other.component && held.service == other.service &&
      held.action == other.action && held.scope == other.scope &&
      held.grantOption == other.grantOption && held.steps == other.steps) = true ↔ _
  simp only [Bool.and_eq_true, beq_iff_eq, and_assoc]

/-- What a privilege covers depends on its component and service, on what its action is called
by, and on its path up to case. -/
theorem covers_congr {vocabularies : Vocabularies} {held other : Privilege}
    (component : held.component = other.component) (service : held.service = other.service)
    (action : vocabularies.resolve held.component held.action =
      vocabularies.resolve held.component other.action)
    (steps : List.Forall₂ (fun step other : Step => (step == other) = true)
      held.steps other.steps) (asked : Privilege) :
    held.covers vocabularies asked = other.covers vocabularies asked := by
  unfold covers
  rw [action, component, service, pathCovers_congr steps]

/-- A privilege covers what is asked for by its component and service, by its action and by its
path. -/
theorem covers_iff {vocabularies : Vocabularies} {held asked : Privilege} :
    held.covers vocabularies asked = true ↔
      (Text.sameAsciiCase held.component asked.component = true ∧
        Text.sameAsciiCase held.service asked.service = true) ∧
      (∃ all heldAction askedAction, vocabularies.all held.component = .ok all ∧
        vocabularies.resolve held.component held.action = .ok heldAction ∧
        vocabularies.resolve held.component asked.action = .ok askedAction ∧
        actionCovers all heldAction askedAction = true) ∧
      pathCovers held.steps asked.steps = true := by
  unfold covers
  rw [Bool.and_eq_true, Bool.and_eq_true, Bool.and_eq_true, and_assoc]
  refine and_congr_right fun _ => and_congr_left fun _ => ?_
  split
  · next all heldAction askedAction isAll resolved asked => simp [isAll, resolved, asked]
  · next unknown =>
    refine iff_of_false (by decide) ?_
    rintro ⟨all, heldAction, askedAction, isAll, resolved, asked, -⟩
    exact unknown all heldAction askedAction isAll resolved asked

/-- A privilege for `all` covers whatever the same privilege covers for another action. -/
theorem covers_all {vocabularies : Vocabularies} (registered : vocabularies.Registered)
    {held asked : Privilege} (covers : held.covers vocabularies asked = true) :
    { held with action := Action.allName }.covers vocabularies asked = true := by
  obtain ⟨names, ⟨all, heldAction, askedAction, isAll, -, askedResolved, -⟩, path⟩ :=
    covers_iff.1 covers
  refine covers_iff.2 ⟨names, ⟨all, all, askedAction, isAll, registered.resolve_all isAll,
    askedResolved, ?_⟩, path⟩
  have named := Vocabularies.name_of_all isAll
  exact (actionCovers_iff named).2 (Or.inl named)

/-- What a privilege covers by way of another it covers itself, as far as its path does. -/
theorem covers_chain {vocabularies : Vocabularies} {held middle asked : Privilege}
    (same : Text.normalize held.component = Text.normalize middle.component)
    (upper : held.covers vocabularies middle = true)
    (lower : middle.covers vocabularies asked = true) :
    held.covers vocabularies asked = true ↔ pathCovers held.steps asked.steps = true := by
  obtain ⟨⟨component, service⟩, ⟨all, own, passed, isAll, isOwn, isPassed, first⟩, -⟩ :=
    covers_iff.1 upper
  obtain ⟨⟨askedComponent, askedService⟩,
    ⟨whole, again, other, isWhole, isAgain, isOther, second⟩, -⟩ := covers_iff.1 lower
  rw [← Vocabularies.all_congr same] at isWhole
  rw [← Vocabularies.resolve_congr same] at isAgain isOther
  obtain rfl : all = whole := Except.ok.inj (isAll.symm.trans isWhole)
  obtain rfl : passed = again := Except.ok.inj (isPassed.symm.trans isAgain)
  refine ⟨fun covered => (covers_iff.1 covered).2.2, fun path => covers_iff.2 ⟨⟨?_, ?_⟩,
    ⟨all, own, other, isAll, isOwn, isOther, ?_⟩, path⟩⟩
  · exact Text.sameAsciiCase_trans component askedComponent
  · exact Text.sameAsciiCase_trans service askedService
  · have isNamed := Vocabularies.name_of_all isAll
    rw [actionCovers_iff isNamed] at first second ⊢
    rcases first with whole | ⟨single, same⟩
    · exact Or.inl whole
    · rcases second with isWhole | ⟨otherSingle, otherSame⟩
      · exact absurd isWhole single
      · exact Or.inr ⟨otherSingle, same.trans otherSame⟩

/-- The privilege covers what is asked for, and when it is to be passed on it may be. -/
def Allows (vocabularies : Vocabularies) (held asked : Privilege) (passing : Bool) : Prop :=
  held.covers vocabularies asked = true ∧ (passing = true → held.grantOption = some true)

theorem allows_of_beq {vocabularies : Vocabularies} {asked held other : Privilege}
    {passing : Bool} (same : (held == other) = true)
    (allows : held.Allows vocabularies asked passing) :
    other.Allows vocabularies asked passing := by
  obtain ⟨component, service, action, -, grantOption, steps⟩ := beq_iff.1 same
  have covers : held.covers vocabularies asked = other.covers vocabularies asked :=
    covers_congr component service (by rw [action]) (forall₂_of_beq steps) asked
  exact ⟨covers ▸ allows.1, fun passes => grantOption ▸ allows.2 passes⟩

end Privilege

/-! ### Keys that are read back -/

theorem PrivilegeDraft.checkSteps_of_isStorable {steps : List Step}
    (short : steps.length ≤ Step.maxDepth) (storable : ∀ step ∈ steps, step.isStorable = true) :
    checkSteps steps = .ok steps := by
  rw [checkSteps, if_neg (Nat.not_lt_of_le short), Step.find?_not_isStorable.2 storable]

/-- The privilege that has the fields of a key and goes by the steps. -/
def RecordKey.toPrivilege (key : RecordKey) (steps : List Step) : Privilege where
  component := Text.lower key.component
  service := Text.lower key.service
  action := Text.lower key.action
  scope := Text.lower key.scope
  grantOption := key.grantOption
  steps := steps.map Step.lowered

/-- A key that can be read back is read back. -/
theorem Catalogue.Fits.ofKey {catalogue : Catalogue} {key : RecordKey}
    (fits : catalogue.Fits key) :
    ∃ steps, catalogue.decode key.component key.path = .ok steps ∧
      catalogue.ofKey key = .ok (key.toPrivilege steps) := by
  obtain ⟨steps, decoded, encoded⟩ := fits.path
  obtain ⟨tag, short, -, storable, -⟩ :=
    Hierarchies.encode_eq_ok.1 (StoreError.lift_eq_ok.1 encoded)
  rw [List.length_map] at short
  have checked := PrivilegeDraft.checkSteps_of_isStorable short storable
  refine ⟨steps, decoded, bind_eq_ok.2 ⟨steps, decoded, StoreError.lift_eq_ok.2 ?_⟩⟩
  exact bind_eq_ok.2 ⟨_, rfl, bind_eq_ok.2 ⟨_, rfl, bind_eq_ok.2 ⟨_, rfl, bind_eq_ok.2 ⟨_, rfl,
    bind_eq_ok.2 ⟨_, rfl, bind_eq_ok.2 ⟨_, checked, rfl⟩⟩⟩⟩⟩⟩

/-- The privileges that are made from drafts have their names in lower case. -/
theorem PrivilegeDraft.lowered_of_build {draft : PrivilegeDraft} {privilege : Privilege}
    (built : draft.build = .ok privilege) :
    Text.lower privilege.component = privilege.component ∧
      Text.lower privilege.service = privilege.service ∧
      privilege.steps.map Step.lowered = privilege.steps := by
  have normal := Privilege.normal_of_build built
  exact ⟨normal.component, normal.service, normal.lowered⟩

theorem SamePath.lowered {steps others : List Step} (same : SamePath steps others)
    (low : steps.map Step.lowered = steps) : SamePath steps (others.map Step.lowered) := by
  induction same with
  | nil => exact .nil
  | @cons step other _ _ first _ inductionHypothesis =>
    rw [List.map_cons, List.cons.injEq] at low
    refine .cons ⟨?_, first.2⟩ (inductionHypothesis low.2)
    show Text.lower other.name = step.name
    rw [first.1]
    exact congrArg Step.name low.1

/-- A privilege that was stored and is read back allows what it allowed. -/
theorem Catalogue.allows_ofKey {catalogue : Catalogue} (registered : catalogue.Registered)
    {draft : PrivilegeDraft} {privilege : Privilege} (built : draft.build = .ok privilege)
    {key : RecordKey} (keyed : catalogue.toKey privilege = .ok key) :
    ∃ found, catalogue.ofKey key = .ok found ∧ ∀ asked passing,
      found.Allows catalogue.vocabularies asked passing ↔
        privilege.Allows catalogue.vocabularies asked passing := by
  have fits := fits_of_toKey registered keyed
  obtain ⟨action, path, resolved, encoded, isKey⟩ := toKey_eq_ok.1 keyed
  obtain ⟨steps, decoded, found⟩ := fits.ofKey
  obtain ⟨again, decodedAgain, same, -⟩ := decode_of_encode encoded
  rw [← isKey] at decoded
  obtain rfl : again = steps := Except.ok.inj (decodedAgain.symm.trans decoded)
  obtain ⟨component, service, low⟩ := PrivilegeDraft.lowered_of_build built
  have resolved := StoreError.lift_eq_ok.1 resolved
  have spelled := registered.lower_name resolved
  refine ⟨_, found, fun asked passing => ?_⟩
  have covers : privilege.covers catalogue.vocabularies asked =
      (key.toPrivilege again).covers catalogue.vocabularies asked := by
    subst isKey
    refine Privilege.covers_congr component.symm service.symm ?_ ?_ asked
    · rw [resolved, RecordKey.toPrivilege, spelled]
      exact (registered.resolve_name resolved).symm
    · exact (same.lowered low).forall₂_beq
  have grantOption : (key.toPrivilege again).grantOption = privilege.grantOption := by
    rw [← isKey]
    rfl
  rw [Privilege.Allows, Privilege.Allows, covers, grantOption]

/-! ### Repetitions -/

theorem mem_of_mem_eraseDups {Item : Type} [BEq Item] {items : List Item} {item : Item}
    (member : item ∈ items.eraseDups) : item ∈ items := by
  match items with
  | [] => exact member
  | first :: rest =>
    rw [List.eraseDups_cons, List.mem_cons] at member
    rcases member with rfl | later
    · exact List.mem_cons_self
    · exact List.mem_cons_of_mem _ (List.mem_filter.1 (mem_of_mem_eraseDups later)).1
termination_by items.length
decreasing_by
  exact Nat.lt_succ_of_le (List.length_filter_le _ rest)

/-- Nothing is left twice when repetitions are dropped. -/
theorem pairwise_eraseDups {Item : Type} [BEq Item] (items : List Item) :
    items.eraseDups.Pairwise fun first second => (second == first) = false := by
  match items with
  | [] => exact .nil
  | first :: rest =>
    rw [List.eraseDups_cons]
    refine .cons (fun other later => ?_) (pairwise_eraseDups _)
    have kept := (List.mem_filter.1 (mem_of_mem_eraseDups later)).2
    rwa [Bool.not_eq_true'] at kept
termination_by items.length
decreasing_by
  exact Nat.lt_succ_of_le (List.length_filter_le _ rest)

/-- All items are left if only the same item counts as a repetition. -/
theorem mem_eraseDups_iff {Item : Type} [BEq Item] {items : List Item}
    (told : ∀ item ∈ items, ∀ other ∈ items, (item == other) = true → item = other) (item : Item) :
    item ∈ items.eraseDups ↔ item ∈ items := by
  match items with
  | [] => exact Iff.rfl
  | first :: rest =>
    have fewer : (rest.filter fun other => !other == first) ⊆ first :: rest :=
      fun _ member => List.mem_cons_of_mem _ (List.mem_filter.1 member).1
    rw [List.eraseDups_cons, List.mem_cons, List.mem_cons, mem_eraseDups_iff
      (fun one isOne other isOther => told one (fewer isOne) other (fewer isOther)) item,
      List.mem_filter]
    refine or_congr_right' fun differs => and_iff_left_of_imp fun member => ?_
    rw [Bool.not_eq_true', ← Bool.not_eq_true]
    exact fun equal =>
      differs (told item (List.mem_cons_of_mem _ member) first List.mem_cons_self equal)
termination_by items.length
decreasing_by
  exact Nat.lt_succ_of_le (List.length_filter_le _ rest)

/-- What some item of a list has is had by one that is left when repetitions are dropped, if it
does not tell repetitions apart. -/
theorem exists_mem_eraseDups {Item : Type} [BEq Item] {property : Item → Prop}
    (respects : ∀ item other : Item, (item == other) = true → property item → property other)
    (items : List Item) :
    (∃ item ∈ items.eraseDups, property item) ↔ ∃ item ∈ items, property item := by
  match items with
  | [] => simp
  | first :: rest =>
    have others := exists_mem_eraseDups respects (rest.filter fun item => !item == first)
    rw [List.eraseDups_cons, List.exists_mem_cons_iff, others, List.exists_mem_cons_iff]
    constructor
    · rintro (atFirst | ⟨item, member, has⟩)
      · exact Or.inl atFirst
      · exact Or.inr ⟨item, (List.mem_filter.1 member).1, has⟩
    · rintro (atFirst | ⟨item, member, has⟩)
      · exact Or.inl atFirst
      · cases same : item == first with
        | true => exact Or.inl (respects item first same has)
        | false =>
          refine Or.inr ⟨item, List.mem_filter.2 ⟨member, ?_⟩, has⟩
          rw [same, Bool.not_false]
termination_by items.length
decreasing_by
  exact Nat.lt_succ_of_le (List.length_filter_le _ rest)

instance : EquivBEq Step where
  rfl {step} := Step.beq_iff.2 ⟨Text.sameAsciiCase_refl _, Text.sameAsciiCase_refl _⟩
  symm {first second} same := by
    obtain ⟨types, names⟩ := Step.beq_iff.1 same
    rw [Text.sameAsciiCase_comm] at types names
    exact Step.beq_iff.2 ⟨types, names⟩
  trans {first second third} left right := by
    obtain ⟨types, names⟩ := Step.beq_iff.1 left
    obtain ⟨otherTypes, otherNames⟩ := Step.beq_iff.1 right
    exact Step.beq_iff.2 ⟨Text.sameAsciiCase_trans types otherTypes,
      Text.sameAsciiCase_trans names otherNames⟩

theorem beq_trans_of_steps {first second third : List Step} (left : (first == second) = true)
    (right : (second == third) = true) : (first == third) = true := by
  induction first generalizing second third with
  | nil =>
    cases second with
    | nil => exact right
    | cons => cases left
  | cons step rest inductionHypothesis =>
    cases second with
    | nil => cases left
    | cons middle others =>
      cases third with
      | nil => cases right
      | cons last further =>
        rw [List.cons_beq_cons, Bool.and_eq_true] at left right ⊢
        exact ⟨PartialEquivBEq.trans left.1 right.1, inductionHypothesis left.2 right.2⟩

namespace Privilege

theorem beq_refl (privilege : Privilege) : (privilege == privilege) = true :=
  beq_iff.2 ⟨rfl, rfl, rfl, rfl, rfl, ReflBEq.rfl⟩

theorem beq_trans {first second third : Privilege} (left : (first == second) = true)
    (right : (second == third) = true) : (first == third) = true := by
  obtain ⟨component, service, action, scope, option, steps⟩ := beq_iff.1 left
  obtain ⟨component', service', action', scope', option', steps'⟩ := beq_iff.1 right
  exact beq_iff.2 ⟨component.trans component', service.trans service', action.trans action',
    scope.trans scope', option.trans option', beq_trans_of_steps steps steps'⟩

/-- A list still contains each of its privileges when repetitions are dropped. -/
theorem contains_eraseDups {privileges : List Privilege} {privilege : Privilege}
    (member : privilege ∈ privileges) : privileges.eraseDups.contains privilege = true := by
  rw [List.contains_iff_exists_mem_beq]
  exact (exists_mem_eraseDups (fun _ _ same equal => beq_trans equal same) privileges).2
    ⟨privilege, member, beq_refl privilege⟩

end Privilege

end Entitlement
