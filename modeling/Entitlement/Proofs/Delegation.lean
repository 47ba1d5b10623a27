/-
This file says how much a grantor outside the admin groups can pass on. What is granted is compared
with what the grantor holds as a request would be, and a request may leave names open by a wildcard
or by ending early. Once it is granted, the same path covers whatever fits it, and that can be more
than the grantor holds: other names than those held where the grant has a wildcard, and other types
than those held below its end. Wherever neither happens, what is passed on is covered by what is
held; `PassesNoMore` says this depth by depth.
-/

import Entitlement.Proofs.Permissions
import Entitlement.Proofs.Reachable

namespace Entitlement

/-! ### Paths depth by depth -/

/-- Whether a step of a held path covers what is asked for at its depth, where nothing may be. -/
def Step.CoversAt (held : Step) : Option Step → Prop
  | some asked => stepCovers held asked = true
  | none => isWildcard held.name = true

theorem pathCovers_iff {held asked : List Step} : pathCovers held asked = true ↔
    ∀ (depth : Nat) (step : Step), held[depth]? = some step → step.CoversAt asked[depth]? := by
  induction held generalizing asked with
  | nil => simp [pathCovers]
  | cons first deeper inductionHypothesis =>
    have split : ∀ others : List Step, (∀ (depth : Nat) (step : Step),
        (first :: deeper)[depth]? = some step → step.CoversAt others[depth]?) ↔
          first.CoversAt others[0]? ∧
            ∀ (depth : Nat) (step : Step), deeper[depth]? = some step →
              step.CoversAt others[depth + 1]? := by
      intro others
      constructor
      · exact fun covers =>
          ⟨covers 0 first rfl, fun depth step found => covers (depth + 1) step found⟩
      · rintro ⟨atFirst, atDeeper⟩ (_ | depth) step found
        · exact Option.some.inj found ▸ atFirst
        · exact atDeeper depth step found
    rw [split]
    cases asked with
    | nil =>
      rw [pathCovers, Bool.and_eq_true, inductionHypothesis]
      rfl
    | cons asked further =>
      rw [pathCovers, Bool.and_eq_true, inductionHypothesis]
      rfl

/-! ### What a grant passes on -/

/-- Whether a step that is given passes no more on than the step that is held at its depth, as far
as it is asked for: a wildcard is given only where one is held or where the very name that is held
is asked for, and where nothing is given, nothing of another type is asked for. -/
def Step.PassesNoMore (held : Step) : Option Step → Option Step → Prop
  | some given, some asked => isWildcard given.name = true →
    isWildcard held.name = true ∨ Text.sameAsciiCase held.name asked.name = true
  | some given, none => isWildcard given.name = true → isWildcard held.name = true
  | none, some asked => held.sameType asked = true
  | none, none => True

/-- Whether a path that is given passes no more on than the path that is held, as far as it is asked
for. -/
def PassesNoMore (held given asked : List Step) : Prop :=
  ∀ (depth : Nat) (step : Step), held[depth]? = some step →
    step.PassesNoMore given[depth]? asked[depth]?

theorem stepCovers_iff {held asked : Step} : stepCovers held asked = true ↔
    held.sameType asked = true ∧ (Text.sameAsciiCase held.name asked.name = true ∨
      isWildcard held.name = true ∨ isWildcard asked.name = true) := by
  rw [stepCovers, Bool.and_eq_true, Bool.or_eq_true, Bool.or_eq_true, or_assoc]

/-- Covering steps can be chained by a name that is no wildcard. -/
theorem stepCovers_trans {held middle asked : Step} (plain : isWildcard middle.name = false)
    (upper : stepCovers held middle = true) (lower : stepCovers middle asked = true) :
    stepCovers held asked = true := by
  obtain ⟨types, names⟩ := stepCovers_iff.1 upper
  obtain ⟨askedTypes, askedNames⟩ := stepCovers_iff.1 lower
  rw [plain] at names askedNames
  refine stepCovers_iff.2 ⟨Text.sameAsciiCase_trans types askedTypes, ?_⟩
  rcases names with same | wild | none
  · rcases askedNames with askedSame | none | askedWild
    · exact Or.inl (Text.sameAsciiCase_trans same askedSame)
    · cases none
    · exact Or.inr (Or.inr askedWild)
  · exact Or.inr (Or.inl wild)
  · cases none

/-- Whatever is in the middle, they can be chained just if no more is passed on. -/
theorem stepCovers_passed {held given asked : Step} (passes : stepCovers held given = true)
    (covers : stepCovers given asked = true) (named : isWildcard asked.name = false) :
    stepCovers held asked = true ↔ held.PassesNoMore (some given) (some asked) := by
  constructor
  · intro covered _
    rcases (stepCovers_iff.1 covered).2 with same | wild | wild
    · exact Or.inr same
    · exact Or.inl wild
    · rw [named] at wild
      cases wild
  · intro passesNoMore
    by_cases wildGiven : isWildcard given.name = true
    · have type : held.sameType asked = true :=
        Text.sameAsciiCase_trans (stepCovers_iff.1 passes).1 (stepCovers_iff.1 covers).1
      rcases passesNoMore wildGiven with wild | same
      · exact stepCovers_iff.2 ⟨type, Or.inr (Or.inl wild)⟩
      · exact stepCovers_iff.2 ⟨type, Or.inl same⟩
    · exact stepCovers_trans (Bool.eq_false_iff.2 wildGiven) passes covers

/-- A step that covers a given one covers what this one covers just if no more is passed on. -/
theorem Step.coversAt_iff {held : Step} {given asked : Option Step}
    (passes : held.CoversAt given) (covers : ∀ step, given = some step → step.CoversAt asked)
    (named : ∀ step, asked = some step → isWildcard step.name = false) :
    held.CoversAt asked ↔ held.PassesNoMore given asked := by
  cases given with
  | none =>
    have wild : isWildcard held.name = true := passes
    cases asked with
    | none => exact iff_of_true wild trivial
    | some step => exact stepCovers_iff.trans (and_iff_left (Or.inr (Or.inl wild)))
  | some given =>
    cases asked with
    | none =>
      have wild : isWildcard given.name = true := covers given rfl
      exact ⟨fun covered _ => covered, fun passesNoMore => passesNoMore wild⟩
    | some step => exact stepCovers_passed passes (covers given rfl) (named step rfl)

theorem pathCovers_passed {held given asked : List Step} (passes : pathCovers held given = true)
    (covers : pathCovers given asked = true)
    (named : ∀ step ∈ asked, isWildcard step.name = false) :
    pathCovers held asked = true ↔ PassesNoMore held given asked := by
  rw [pathCovers_iff] at passes covers ⊢
  refine forall₃_congr fun depth step found => ?_
  refine Step.coversAt_iff (passes depth step found) (fun other isGiven => ?_)
    fun other isAsked => ?_
  · exact covers depth other isGiven
  · exact named other (List.mem_of_getElem? isAsked)

/-- A privilege that covers a given one covers what this one covers just if the path passes no more
on. -/
theorem Privilege.covers_passed {vocabularies : Vocabularies} {held given asked : Privilege}
    (component : held.component = given.component)
    (passes : held.covers vocabularies given = true)
    (covers : given.covers vocabularies asked = true)
    (named : ∀ step ∈ asked.steps, isWildcard step.name = false) :
    held.covers vocabularies asked = true ↔
      PassesNoMore held.steps given.steps asked.steps := by
  rw [covers_chain (congrArg Text.normalize component) passes covers]
  exact pathCovers_passed (covers_iff.1 passes).2.2 (covers_iff.1 covers).2.2 named

/-! ### What a grantor holds -/

/-- Privileges that are read back from keys are made from drafts. -/
theorem Catalogue.built_of_ofKey {catalogue : Catalogue} {key : RecordKey} {privilege : Privilege}
    (read : catalogue.ofKey key = .ok privilege) :
    ∃ draft : PrivilegeDraft, draft.build = .ok privilege := by
  obtain ⟨steps, -, built⟩ := bind_eq_ok.1 read
  exact ⟨_, StoreError.lift_eq_ok.1 built⟩

namespace Ledger

variable {catalogue : Catalogue} {ledger : Ledger}

/-- A grantor outside the admin groups who may grant a privilege holds one that covers it and may
be passed on. -/
theorem checkGrantor_eq_ok {adminGroups : OrderedSet String} {privilege : Privilege}
    {grantor : String} {groups : List String}
    (outside : ∀ group ∈ normalizeAll groups, group ∉ adminGroups)
    (passed : ledger.checkGrantor catalogue adminGroups privilege grantor groups = .ok ()) :
    ∃ held, ledger.privilegesOfRoles catalogue (ledger.rolesOfGroups groups) = .ok held ∧
      ∃ own ∈ held, own.grantOption = some true ∧
        own.covers catalogue.vocabularies privilege = true := by
  have notAdmin : ¬(normalizeAll groups).elements.any adminGroups.contains = true := by
    rw [List.any_eq_true]
    rintro ⟨group, member, isAdmin⟩
    exact outside group member (OrderedSet.contains_iff.1 isAdmin)
  obtain ⟨_, -, passed⟩ := bind_eq_ok.1 passed
  obtain ⟨may, isMay, passed⟩ := bind_eq_ok.1 passed
  rw [mayPassOn, if_neg notAdmin] at isMay
  obtain ⟨held, isHeld, isMay⟩ := bind_eq_ok.1 isMay
  obtain rfl := pure_eq_ok.1 isMay
  refine ⟨held, isHeld, ?_⟩
  split at passed
  · next some =>
    obtain ⟨own, member, allows⟩ := List.any_eq_true.1 some
    rw [Bool.and_eq_true, beq_iff_eq] at allows
    exact ⟨own, member, allows.1, allows.2⟩
  · cases passed

/-- What a grantor outside the admin groups can pass on. Something that may be passed on and covers
the grant is held by a role of the grantor's groups. Whatever single resource the grant covers, this
covers it too just if the grant passes no more on at any depth. -/
theorem delegate_passes_on {adminGroups : OrderedSet String} {draft : PrivilegeDraft}
    {privilege : Privilege} {grantor : String} {groups : List String}
    (built : draft.build = .ok privilege)
    (outside : ∀ group ∈ normalizeAll groups, group ∉ adminGroups)
    (passed : ledger.checkGrantor catalogue adminGroups privilege grantor groups = .ok ()) :
    ∃ held, ledger.privilegesOfRoles catalogue (ledger.rolesOfGroups groups) = .ok held ∧
      (∃ own ∈ held, own.grantOption = some true ∧
        own.covers catalogue.vocabularies privilege = true) ∧
      ∀ own ∈ held, own.grantOption = some true →
        own.covers catalogue.vocabularies privilege = true →
        ∀ asked : Privilege, (∀ step ∈ asked.steps, isWildcard step.name = false) →
          privilege.covers catalogue.vocabularies asked = true →
          (own.covers catalogue.vocabularies asked = true ↔
            PassesNoMore own.steps privilege.steps asked.steps) := by
  obtain ⟨held, isHeld, some⟩ := checkGrantor_eq_ok outside passed
  refine ⟨held, isHeld, some, fun own member _ passes asked named covers => ?_⟩
  obtain ⟨_, -, isRead⟩ := Catalogue.mem_of_ofRecords isHeld member
  obtain ⟨ownDraft, ownBuilt⟩ := Catalogue.built_of_ofKey isRead
  have component : own.component = privilege.component :=
    Text.eq_of_sameAsciiCase (PrivilegeDraft.lowered_of_build ownBuilt).1
      (PrivilegeDraft.lowered_of_build built).1 (Privilege.covers_iff.1 passes).1.1
  exact Privilege.covers_passed component passes covers named

/-- Who may read on a shelf and pass this on may grant it, and covers each book on it as well. -/
theorem delegate_passes_on_library :
    ∃ (ledger : Ledger) (held : List Privilege), Reachable Catalogue.library ledger ∧
      ledger.checkGrantor Catalogue.library (OrderedSet.ofList ["admins"])
        (libraryReading [⟨"shelf", "a"⟩]) "bob" ["staff"] = .ok () ∧
      ledger.privilegesOfRoles Catalogue.library (ledger.rolesOfGroups ["staff"]) = .ok held ∧
      ∃ own ∈ held, own.covers Catalogue.library.vocabularies
          (libraryReading [⟨"shelf", "a"⟩, ⟨"book", "b"⟩]) = true ∧
        PassesNoMore own.steps [⟨"shelf", "a"⟩] [⟨"shelf", "a"⟩, ⟨"book", "b"⟩] := by
  let shelf := libraryReading [⟨"shelf", "a"⟩]
  let book := libraryReading [⟨"shelf", "a"⟩, ⟨"book", "b"⟩]
  let named := (Operation.createRole "Clerks" default).apply Catalogue.library empty
  let linked := (Operation.addGroups "Clerks" ["Staff"] default).apply Catalogue.library
    named.ledger
  let reading := (Operation.grant "Clerks" shelf "olga" default).apply Catalogue.library
    linked.ledger
  have reached : Reachable Catalogue.library reading.ledger := .apply (.apply (.apply .empty _) _) _
  have built : shelf.toDraft.build = .ok shelf := by decide +kernel
  have outside : ∀ group ∈ normalizeAll ["staff"], group ∉ OrderedSet.ofList ["admins"] := by
    intro group member
    rw [mem_normalizeAll_singleton.1 member, OrderedSet.mem_ofList]
    decide +kernel
  have passed : reading.ledger.checkGrantor Catalogue.library (OrderedSet.ofList ["admins"])
      shelf "bob" ["staff"] = .ok () := by decide +kernel
  obtain ⟨held, isHeld, -, passesOn⟩ := delegate_passes_on built outside passed
  have single : reading.ledger.privilegesOfRoles Catalogue.library
      (reading.ledger.rolesOfGroups ["staff"]) = .ok [shelf] := by decide +kernel
  obtain rfl : held = [shelf] := Except.ok.inj (isHeld.symm.trans single)
  have itself : shelf.covers Catalogue.library.vocabularies shelf = true := by decide +kernel
  have covered : shelf.covers Catalogue.library.vocabularies book = true := by decide +kernel
  have plain : ∀ step ∈ book.steps, isWildcard step.name = false := by decide +kernel
  exact ⟨reading.ledger, _, reached, passed, isHeld, shelf, List.mem_singleton_self _, covered,
    (passesOn shelf (List.mem_singleton_self _) rfl itself book plain covered).1 covered⟩

/-- A grant can pass more on than is held. Who may read all books of one shelf may grant reading on
every shelf, which covers another shelf, and on the whole shelf, which covers the boxes on it. -/
theorem delegate_passes_on_more :
    ∃ (catalogue : Catalogue) (ledger : Ledger) (held : List Privilege),
      catalogue.Registered ∧ Reachable catalogue ledger ∧
      (∀ group ∈ normalizeAll ["staff"], group ∉ OrderedSet.ofList ["admins"]) ∧
      ledger.privilegesOfRoles catalogue (ledger.rolesOfGroups ["staff"]) = .ok held ∧
      ∀ paths ∈ [([⟨"shelf", "*"⟩], [⟨"shelf", "b"⟩]),
          ([⟨"shelf", "a"⟩], [⟨"shelf", "a"⟩, ⟨"box", "b"⟩])],
        (libraryReading paths.1).toDraft.build = .ok (libraryReading paths.1) ∧
          ledger.checkGrantor catalogue (OrderedSet.ofList ["admins"]) (libraryReading paths.1)
            "bob" ["staff"] = .ok () ∧
          (∀ step ∈ paths.2, isWildcard step.name = false) ∧
          (libraryReading paths.1).covers catalogue.vocabularies (libraryReading paths.2) =
            true ∧
          ¬∃ own ∈ held, own.grantOption = some true ∧
            own.covers catalogue.vocabularies (libraryReading paths.2) = true := by
  let catalogue : Catalogue := { Catalogue.library with
    hierarchies := Catalogue.library.hierarchies.register "library" ["shelf", "box"] }
  let books := libraryReading [⟨"shelf", "a"⟩, ⟨"book", "*"⟩]
  let named := (Operation.createRole "Clerks" default).apply catalogue empty
  let linked := (Operation.addGroups "Clerks" ["Staff"] default).apply catalogue named.ledger
  let reading := (Operation.grant "Clerks" books "olga" default).apply catalogue linked.ledger
  refine ⟨catalogue, reading.ledger, [books], Catalogue.registered_library,
    .apply (.apply (.apply .empty _) _) _, fun group member => ?_, ?_, ?_⟩
  · rw [mem_normalizeAll_singleton.1 member, OrderedSet.mem_ofList]
    decide +kernel
  · decide +kernel
  · decide +kernel

end Ledger

end Entitlement
