/-
This file proves that a key stands for one privilege. The key of a privilege is read back as the
privilege, for the action by its registered name; so two privileges have the same key just if they
are equal up to the blanks around their actions. And the key of every record is the key of the
privilege that is read back from it, which is why different records are never reported as the same
privilege.

The types of a path are not stored. They come back in the spelling of the type sequence that the
path fits first, and paths are the same when their types differ in case alone (`SamePath`), so
nothing is lost.
-/

import Entitlement.Proofs.Lowered
import Entitlement.Proofs.Permissions

namespace Entitlement

/-! ### Equal paths in lower case -/

theorem beq_of_forall₂ {steps others : List Step}
    (same : List.Forall₂ (fun step other : Step => (step == other) = true) steps others) :
    (steps == others) = true := by
  induction same with
  | nil => rfl
  | cons first _ inductionHypothesis =>
    rw [List.cons_beq_cons, first, inductionHypothesis]
    rfl

namespace SamePath

theorem symm {steps others : List Step} (same : SamePath steps others) : SamePath others steps := by
  refine List.Forall₂.flip (same.imp fun step other respelled => ?_)
  exact ⟨respelled.1.symm, Text.sameAsciiCase_comm step.type other.type ▸ respelled.2⟩

theorem trans {first second third : List Step} (left : SamePath first second)
    (right : SamePath second third) : SamePath first third := by
  induction left generalizing third with
  | nil => exact right
  | cons step _ inductionHypothesis =>
    cases right with
    | cons other rest =>
      exact .cons ⟨other.1.trans step.1, Text.sameAsciiCase_trans step.2 other.2⟩
        (inductionHypothesis rest)

/-- Paths in lower case are the same just if they are equal. -/
theorem iff_beq {steps others : List Step} (low : steps.map Step.lowered = steps)
    (lowOther : others.map Step.lowered = others) :
    SamePath steps others ↔ (steps == others) = true := by
  refine ⟨fun same => beq_of_forall₂ same.forall₂_beq, fun equal => ?_⟩
  have pairs := forall₂_of_beq equal
  induction pairs with
  | nil => exact .nil
  | @cons step other rest further first _ inductionHypothesis =>
    rw [List.map_cons, List.cons.injEq] at low lowOther
    rw [List.cons_beq_cons, Bool.and_eq_true] at equal
    obtain ⟨types, names⟩ := Step.beq_iff.1 first
    have name := Text.eq_of_sameAsciiCase (congrArg Step.name low.1)
      (congrArg Step.name lowOther.1) names
    exact .cons ⟨name.symm, types⟩ (inductionHypothesis low.2 lowOther.2 equal.2)

end SamePath

/-! ### Privileges and keys -/

/-- The privilege with its action as it is given. -/
def Privilege.forAction (privilege : Privilege) (action : String) : Privilege :=
  { privilege with action := action }

namespace Catalogue

variable {catalogue : Catalogue} (registered : catalogue.Registered)

include registered

/-- The key of a privilege is read back as the privilege for the registered action. -/
theorem ofKey_of_toKey {privilege : Privilege} (normal : privilege.Normal) {key : RecordKey}
    (keyed : catalogue.toKey privilege = .ok key) :
    ∃ found, catalogue.ofKey key = .ok found ∧
      (found == privilege.forAction key.action) = true := by
  obtain ⟨steps, decoded, found⟩ := (fits_of_toKey registered keyed).ofKey
  have low := normal_of_toKey registered normal keyed
  refine ⟨key.toPrivilege steps, found, Privilege.beq_iff.2 ?_⟩
  rw [RecordKey.toPrivilege, low.component, low.service, low.action, low.scope,
    map_lowered_of_decode low.names decoded]
  have lowSteps := map_lowered_of_decode low.names decoded
  obtain ⟨action, path, -, encoded, rfl⟩ := toKey_eq_ok.1 keyed
  obtain ⟨again, decodedAgain, same, -⟩ := decode_of_encode encoded
  obtain rfl : again = steps := Except.ok.inj (decodedAgain.symm.trans decoded)
  exact ⟨rfl, rfl, rfl, rfl, rfl, (SamePath.iff_beq lowSteps normal.lowered).1 same.symm⟩

/-- Privileges have the same key just if they are equal up to the blanks around their actions. -/
theorem toKey_eq_iff {first second : Privilege} (normalFirst : first.Normal)
    (normalSecond : second.Normal) {key other : RecordKey}
    (keyed : catalogue.toKey first = .ok key) (otherKeyed : catalogue.toKey second = .ok other) :
    key = other ↔ (first.forAction (Text.trim first.action) ==
      second.forAction (Text.trim second.action)) = true := by
  obtain ⟨action, path, resolved, encoded, rfl⟩ := toKey_eq_ok.1 keyed
  obtain ⟨otherAction, otherPath, otherResolved, otherEncoded, rfl⟩ := toKey_eq_ok.1 otherKeyed
  have name : action.name = Text.trim first.action :=
    (registered.name_eq_normalize (StoreError.lift_eq_ok.1 resolved)).trans
      (Text.normalize_of_lower normalFirst.action)
  have otherName : otherAction.name = Text.trim second.action :=
    (registered.name_eq_normalize (StoreError.lift_eq_ok.1 otherResolved)).trans
      (Text.normalize_of_lower normalSecond.action)
  rw [Privilege.beq_iff, RecordKey.mk.injEq, name, otherName]
  refine and_congr_right fun component => and_congr_right fun _ => and_congr_right fun _ =>
    and_congr_right fun _ => and_congr_right fun _ => ?_
  show path = otherPath ↔ (first.steps == second.steps) = true
  rw [← SamePath.iff_beq normalFirst.lowered normalSecond.lowered]
  rw [← component] at otherEncoded
  -- What is stored leaves the spelling of the types open, and so does equality of paths.
  constructor
  · rintro rfl
    obtain ⟨decoded, found, same, -⟩ := decode_of_encode encoded
    obtain ⟨again, foundAgain, sameAgain, -⟩ := decode_of_encode otherEncoded
    obtain rfl : decoded = again := Except.ok.inj (found.symm.trans foundAgain)
    exact same.trans sameAgain.symm
  · intro same
    have stored := Hierarchies.encode_respelled same (StoreError.lift_eq_ok.1 encoded)
    exact Except.ok.inj (stored.symm.trans (StoreError.lift_eq_ok.1 otherEncoded))

omit registered in
theorem normal_of_ofKey {key : RecordKey} {found : Privilege}
    (read : catalogue.ofKey key = .ok found) : found.Normal := by
  obtain ⟨steps, -, built⟩ := bind_eq_ok.1 read
  exact Privilege.normal_of_build (StoreError.lift_eq_ok.1 built)

omit registered in
/-- A key in lower case that can be read back is the key of what is read back. -/
theorem Fits.toKey_ofKey {key : RecordKey} (fits : catalogue.Fits key) (normal : key.Normal) :
    ∃ found, catalogue.ofKey key = .ok found ∧ catalogue.toKey found = .ok key := by
  obtain ⟨steps, decoded, found⟩ := fits.ofKey
  obtain ⟨same, sameDecoded, encoded⟩ := fits.path
  obtain rfl : steps = same := Except.ok.inj (decoded.symm.trans sameDecoded)
  obtain ⟨action, resolved, named⟩ := fits.action
  refine ⟨key.toPrivilege steps, found, toKey_eq_ok.2 ⟨action, key.path, ?_, ?_, ?_⟩⟩
  · rw [RecordKey.toPrivilege, normal.component, normal.action]
    exact resolved
  · rw [RecordKey.toPrivilege, normal.component, map_lowered_of_decode normal.names decoded]
    exact encoded
  · rw [RecordKey.toPrivilege, normal.component, normal.service, normal.scope, named]

/-- Equal privileges that are read back are read back from the same key. -/
theorem key_eq_of_beq {key other : RecordKey} (fits : catalogue.Fits key)
    (otherFits : catalogue.Fits other) (normal : key.Normal) (otherNormal : other.Normal)
    {first second : Privilege} (read : catalogue.ofKey key = .ok first)
    (otherRead : catalogue.ofKey other = .ok second) (equal : (first == second) = true) :
    key = other := by
  obtain ⟨found, isFound, keyed⟩ := fits.toKey_ofKey normal
  obtain rfl : found = first := Except.ok.inj (isFound.symm.trans read)
  obtain ⟨again, isAgain, otherKeyed⟩ := otherFits.toKey_ofKey otherNormal
  obtain rfl : again = second := Except.ok.inj (isAgain.symm.trans otherRead)
  obtain ⟨component, service, action, scope, option, steps⟩ := Privilege.beq_iff.1 equal
  refine (toKey_eq_iff registered (normal_of_ofKey read) (normal_of_ofKey otherRead) keyed
    otherKeyed).2 (Privilege.beq_iff.2 ⟨component, service, ?_, scope, option, steps⟩)
  exact congrArg Text.trim action

end Catalogue

/-! ### The privileges of roles -/

/-- Nothing is dropped from a list without repetitions. -/
theorem eraseDups_eq_self {Item : Type} [BEq Item] {items : List Item}
    (distinct : items.Pairwise fun first second => (second == first) = false) :
    items.eraseDups = items := by
  induction items with
  | nil => rfl
  | cons first rest inductionHypothesis =>
    obtain ⟨apart, later⟩ := List.pairwise_cons.1 distinct
    have kept : (rest.filter fun item => !item == first) = rest := by
      refine List.filter_eq_self.2 fun item member => ?_
      rw [apart item member]
      rfl
    rw [List.eraseDups_cons, kept, inductionHypothesis later]

namespace Ledger

variable {catalogue : Catalogue} {ledger : Ledger}

/-- The candidates are different records. -/
theorem pairwise_candidates (roles : OrderedSet String) :
    (ledger.candidates (some roles)).Pairwise fun first second => first.1 ≠ second.1 := by
  refine List.Pairwise.filterMap _ ?_ (ledger.recordsOfRoles roles).increasing
  intro number other before entry isEntry otherEntry isOther
  obtain ⟨record, -, rfl⟩ := Option.map_eq_some_iff.1 isEntry
  obtain ⟨otherRecord, -, rfl⟩ := Option.map_eq_some_iff.1 isOther
  intro equal
  exact absurd before (Std.LawfulEqOrd.compare_eq_iff_eq.2 equal ▸ by decide)

/-- Records that are read back as equal privileges have the same key. -/
theorem Coherent.key_eq_of_beq (coherent : ledger.Coherent catalogue)
    (registered : catalogue.Registered) (keyed : ledger.Keyed RecordKey.Normal)
    {first second : Nat × Record} (found : ledger.record? first.1 = some first.2)
    (otherFound : ledger.record? second.1 = some second.2) {privilege other : Privilege}
    (read : catalogue.ofKey first.2.key = .ok privilege)
    (otherRead : catalogue.ofKey second.2.key = .ok other) (equal : (privilege == other) = true) :
    first.2.key = second.2.key :=
  Catalogue.key_eq_of_beq registered (coherent.fits _ _ found) (coherent.fits _ _ otherFound)
    (keyed _ _ found) (keyed _ _ otherFound) read otherRead equal

/-- The privileges of roles are those of the records that they hold, one for each record, and no
two of them are equal. -/
theorem Coherent.privilegesOfRoles_distinct (coherent : ledger.Coherent catalogue)
    (registered : catalogue.Registered) (keyed : ledger.Keyed RecordKey.Normal)
    (roles : OrderedSet String) :
    ∃ held, ledger.privilegesOfRoles catalogue roles = .ok held ∧
      List.Forall₂ (fun entry privilege => catalogue.ofKey entry.2.key = .ok privilege)
        (ledger.candidates (some roles)) held ∧
      held.Pairwise fun first second => (first == second) = false := by
  obtain ⟨_, read, -⟩ := coherent.privilegesOfRoles roles
  obtain ⟨held, allRead, rfl⟩ := map_eq_ok.1 read
  have matched := List.forall₂_map_left_iff.1 (forall₂_of_mapM_eq_ok allRead)
  have distinct : ∀ {first second : Nat × Record} {privilege other : Privilege},
      first ∈ ledger.candidates (some roles) → second ∈ ledger.candidates (some roles) →
      first.1 ≠ second.1 → catalogue.ofKey first.2.key = .ok privilege →
      catalogue.ofKey second.2.key = .ok other → (privilege == other) = false := by
    intro first second privilege other isFirst isSecond apart isRead otherRead
    have found := record?_of_mem_candidates isFirst
    have otherFound := record?_of_mem_candidates isSecond
    refine Bool.eq_false_iff.2 fun equal => apart ?_
    exact coherent.apart _ _ _ _ found otherFound
      (coherent.key_eq_of_beq registered keyed found otherFound isRead otherRead equal)
  obtain ⟨long, each⟩ := List.forall₂_iff_get.1 matched
  have pairwise : held.Pairwise fun first second =>
      (first == second) = false ∧ (second == first) = false := by
    refine List.pairwise_iff_getElem.2 fun index later inside laterInside before => ?_
    have isCandidate := long.symm ▸ inside
    have laterCandidate := long.symm ▸ laterInside
    have apart := List.pairwise_iff_getElem.1 (pairwise_candidates roles) index later isCandidate
      laterCandidate before
    have isRead := each index isCandidate inside
    have laterRead := each later laterCandidate laterInside
    have member := List.getElem_mem isCandidate
    have laterMember := List.getElem_mem laterCandidate
    exact ⟨distinct member laterMember apart isRead laterRead,
      distinct laterMember member apart.symm laterRead isRead⟩
  have kept : held.eraseDups = held := eraseDups_eq_self (pairwise.imp And.right)
  rw [kept] at read
  exact ⟨held, read, matched, pairwise.imp And.left⟩

end Ledger

/-! ### Keys stand for privileges -/

/-- Whatever was registered, a key stands for one privilege. The key of a privilege is read back as
the privilege for the registered action, whose name has no blanks around it; and privileges have
the same key just if they are equal up to such blanks. The key of every record of an attained ledger
is the key of what is read back from it, so roles have one privilege for each record that they hold,
and no two of these are equal. -/
theorem keys_faithful {catalogue : Catalogue} (registered : catalogue.Registered) :
    (∀ privilege key, privilege.Made → catalogue.toKey privilege = .ok key →
      ∃ action found,
        catalogue.resolve privilege.component privilege.action = .ok action ∧
        action.name = Text.normalize privilege.action ∧
        catalogue.ofKey key = .ok found ∧
        (found == privilege.forAction action.name) = true) ∧
    (∀ first second key other, first.Made → second.Made → catalogue.toKey first = .ok key →
      catalogue.toKey second = .ok other →
      (key = other ↔ (first.forAction (Text.trim first.action) ==
        second.forAction (Text.trim second.action)) = true)) ∧
    ∀ ledger, Ledger.Attained catalogue ledger →
      (∀ number record, ledger.record? number = some record →
        ∃ found, catalogue.ofKey record.key = .ok found ∧
          catalogue.toKey found = .ok record.key) ∧
      ∀ roles, ∃ held, ledger.privilegesOfRoles catalogue roles = .ok held ∧
        List.Forall₂ (fun entry privilege => catalogue.ofKey entry.2.key = .ok privilege)
          (ledger.candidates (some roles)) held ∧
        held.Pairwise fun first second => (first == second) = false := by
  refine ⟨fun privilege key made keyed => ?_, fun first second key other made otherMade keyed
    otherKeyed => Catalogue.toKey_eq_iff registered made.normal otherMade.normal keyed otherKeyed,
    fun ledger attained => ?_⟩
  · obtain ⟨found, read, equal⟩ := Catalogue.ofKey_of_toKey registered made.normal keyed
    obtain ⟨action, path, resolved, -, rfl⟩ := Catalogue.toKey_eq_ok.1 keyed
    exact ⟨action, found, resolved,
      registered.name_eq_normalize (StoreError.lift_eq_ok.1 resolved), read, equal⟩
  · have coherent := attained.reachable.coherent registered
    have keyed := attained.keyed registered
    refine ⟨fun number record found => ?_, fun roles =>
      coherent.privilegesOfRoles_distinct registered keyed roles⟩
    exact (coherent.fits number record found).toKey_ofKey (keyed number record found)

/-- An action with blanks around it and a type in other letters make no other key, and a role that
was granted two actions has two privileges. -/
theorem keys_faithful_library :
    ∃ (padded : Privilege) (key : RecordKey) (ledger : Ledger) (held : List Privilege),
      padded.action = " read " ∧ padded.steps = [⟨"SHELF", "a"⟩] ∧ padded.Made ∧
        Catalogue.library.toKey padded = .ok key ∧
        Catalogue.library.toKey (libraryPrivilege "read") = .ok key ∧
        (padded.forAction (Text.trim " read ") ==
          (libraryPrivilege "read").forAction (Text.trim "read")) = true ∧
        Ledger.Attained Catalogue.library ledger ∧
        ledger.privilegesOfRoles Catalogue.library (OrderedSet.ofList ["clerks"]) = .ok held ∧
        (ledger.candidates (some (OrderedSet.ofList ["clerks"]))).map Prod.fst = [1, 2] ∧
        held.Pairwise fun first second => (first == second) = false := by
  let draft : PrivilegeDraft :=
    { (libraryPrivilege " READ ").toDraft with steps := some [⟨"SHELF", "A"⟩] }
  let padded : Privilege := { libraryPrivilege " read " with steps := [⟨"SHELF", "a"⟩] }
  let read := libraryPrivilege "read"
  let lend := libraryPrivilege "lend"
  let key : RecordKey :=
    ⟨"library", "lending", "read", "*", some true, ⟨1, Slots.ofNames ["a"] (by decide)⟩⟩
  have paddedMade : padded.Made := @Privilege.Made.built draft _ (by decide +kernel)
  have readBuilt : read.toDraft.build = .ok read := by decide +kernel
  have lendBuilt : lend.toDraft.build = .ok lend := by decide +kernel
  have paddedKey : Catalogue.library.toKey padded = .ok key := by decide +kernel
  have readKey : Catalogue.library.toKey read = .ok key := by decide +kernel
  let naming : Ledger.Operation := .createRole "Clerks" default
  let reading : Ledger.Operation := .grant "Clerks" read "olga" default
  let lending : Ledger.Operation := .grant "Clerks" lend "olga" default
  let named := (naming.apply Catalogue.library Ledger.empty).ledger
  let granted := (reading.apply Catalogue.library named).ledger
  let lent := (lending.apply Catalogue.library granted).ledger
  have attained : Ledger.Attained Catalogue.library lent :=
    .apply (.apply (.apply .empty naming trivial) reading ⟨_, readBuilt⟩) lending ⟨_, lendBuilt⟩
  obtain ⟨-, alike, ledgers⟩ := keys_faithful Catalogue.registered_library
  obtain ⟨held, isHeld, -, distinct⟩ := (ledgers lent attained).2 (OrderedSet.ofList ["clerks"])
  have equal := (alike padded read key key paddedMade (.built readBuilt) paddedKey readKey).1 rfl
  have candidates : (lent.candidates (some (OrderedSet.ofList ["clerks"]))).map Prod.fst =
      [1, 2] := by decide +kernel
  exact ⟨padded, key, lent, held, rfl, rfl, paddedMade, paddedKey, readKey, equal, attained, isHeld,
    candidates, distinct⟩

end Entitlement
