/-
This file proves that what a privilege includes is what it covers, as long as no names stand for
others. Records are chosen by comparing the stored components and services as they are and asking
whether one path begins with the other; covering compares names up to case, resolves actions and
walks down both paths at once. The two come to the same because records and privileges are both in
lower case, because the component of a record is always known, and because without wildcards a path
covers another just if the other begins with it.
-/

import Entitlement.Proofs.Lowered
import Entitlement.Proofs.Permissions
import Entitlement.Proofs.Renaming

namespace Entitlement

/-! ### Paths without wildcards -/

/-- A path in which no name stands for others. -/
def IsPlain (steps : List Step) : Prop :=
  ∀ step ∈ steps, isWildcard step.name = false

instance (steps : List Step) : Decidable (IsPlain steps) :=
  inferInstanceAs (Decidable (∀ step ∈ steps, _))

theorem stepCovers_eq_beq {held asked : Step} (heldPlain : isWildcard held.name = false)
    (askedPlain : isWildcard asked.name = false) : stepCovers held asked = (held == asked) := by
  rw [stepCovers, heldPlain, askedPlain, Bool.or_false, Bool.or_false]
  rfl

/-- Without wildcards a path covers another just if the other begins with it. -/
theorem pathCovers_eq_isPrefixOf {held asked : List Step} (heldPlain : IsPlain held)
    (askedPlain : IsPlain asked) : pathCovers held asked = held.isPrefixOf asked := by
  induction held generalizing asked with
  | nil => cases asked <;> rfl
  | cons step deeper inductionHypothesis =>
    obtain ⟨stepPlain, deeperPlain⟩ := List.forall_mem_cons.1 heldPlain
    cases asked with
    | nil =>
      rw [pathCovers, stepPlain]
      rfl
    | cons other further =>
      obtain ⟨otherPlain, furtherPlain⟩ := List.forall_mem_cons.1 askedPlain
      rw [pathCovers, stepCovers_eq_beq stepPlain otherPlain,
        inductionHypothesis deeperPlain furtherPlain]
      rfl

/-! ### One key -/

namespace Catalogue

variable {catalogue : Catalogue}

/-- The privilege of a key has the names of the slots. -/
theorem Fits.isPlain {key : RecordKey} (fits : catalogue.Fits key)
    (plain : ∀ name ∈ key.path.slots.used, isWildcard name = false) {steps : List Step}
    (decoded : catalogue.decode key.component key.path = .ok steps) : IsPlain steps := by
  obtain ⟨same, sameDecoded, encoded⟩ := fits.path
  obtain rfl : steps = same := Except.ok.inj (decoded.symm.trans sameDecoded)
  rw [used_of_encode encoded, List.forall_mem_map] at plain
  exact plain

theorem agrees_ofPrivilege {privilege : Privilege} (unsaid : privilege.grantOption = none)
    {key : RecordKey} : (Target.ofPrivilege privilege).agrees key = true ↔
      key.component = privilege.component ∧ key.service = privilege.service := by
  simp [Target.agrees, Target.ofPrivilege, unsaid]

/-- A privilege for all actions covers the privilege of a key just if it has its component and its
service and covers its path. -/
theorem Fits.covers_toPrivilege {key : RecordKey} (fits : catalogue.Fits key)
    (registered : catalogue.Registered) (low : key.Normal) {privilege : Privilege}
    (normal : privilege.Normal) (steps : List Step) :
    (privilege.withAction Action.allName).covers catalogue.vocabularies (key.toPrivilege steps) =
        true ↔
      (key.component = privilege.component ∧ key.service = privilege.service) ∧
        pathCovers privilege.steps (key.toPrivilege steps).steps = true := by
  have isName : Text.lower Action.allName = Action.allName := by decide +kernel
  rw [Privilege.covers_iff, Privilege.withAction, RecordKey.toPrivilege, low.component,
    low.service, low.action, isName]
  constructor
  · rintro ⟨⟨component, service⟩, -, path⟩
    exact ⟨⟨(Text.eq_of_sameAsciiCase normal.component low.component component).symm,
      (Text.eq_of_sameAsciiCase normal.service low.service service).symm⟩, path⟩
  · rintro ⟨⟨component, service⟩, path⟩
    -- The component of a key is registered with its action, and so is the component asked for.
    obtain ⟨action, resolved, -⟩ := fits.action
    obtain ⟨all, isAll⟩ := fits.all
    rw [component] at resolved isAll
    have isAll := StoreError.lift_eq_ok.1 isAll
    have named := Vocabularies.name_of_all isAll
    refine ⟨⟨?_, ?_⟩, ⟨all, all, action, isAll, registered.resolve_all isAll,
      StoreError.lift_eq_ok.1 resolved, (actionCovers_iff named).2 (Or.inl named)⟩, path⟩
    · rw [component]
      exact Text.sameAsciiCase_refl _
    · rw [service]
      exact Text.sameAsciiCase_refl _

/-- Without wildcards, a privilege that leaves the grant option open includes a key just if it
covers the privilege of the key for all actions. -/
theorem Fits.includes_iff_covers {key : RecordKey} (fits : catalogue.Fits key)
    (registered : catalogue.Registered) (low : key.Normal)
    (plain : ∀ name ∈ key.path.slots.used, isWildcard name = false) {privilege : Privilege}
    (normal : privilege.Normal) (unsaid : privilege.grantOption = none)
    (privilegePlain : IsPlain privilege.steps) {found : Privilege}
    (read : catalogue.ofKey key = .ok found) :
    (Target.ofPrivilege privilege).includes catalogue key = .ok true ↔
      (privilege.withAction Action.allName).covers catalogue.vocabularies found = true := by
  obtain ⟨steps, decoded, isRead⟩ := fits.ofKey
  obtain rfl : key.toPrivilege steps = found := Except.ok.inj (isRead.symm.trans read)
  have lowSteps : (key.toPrivilege steps).steps = steps :=
    map_lowered_of_decode low.names decoded
  rw [includes_eq_ok_true, agrees_ofPrivilege unsaid,
    fits.covers_toPrivilege registered low normal, lowSteps,
    pathCovers_eq_isPrefixOf privilegePlain (fits.isPlain plain decoded)]
  refine and_congr_right fun _ => ⟨?_, fun begins => ⟨steps, decoded, begins⟩⟩
  rintro ⟨other, otherDecoded, begins⟩
  rwa [Except.ok.inj (decoded.symm.trans otherDecoded)]

end Catalogue

/-! ### Records -/

/-- Among the records of an attained ledger, or among those that some roles hold, the ones that a
privilege includes are those whose privileges it covers for all actions. This holds of records
without wildcards in their paths and of privileges without wildcards that leave the grant option
open, whatever was registered. -/
theorem Ledger.included_iff_covers {catalogue : Catalogue} {ledger : Ledger}
    {privilege : Privilege} (registered : catalogue.Registered)
    (attained : Attained catalogue ledger) (made : privilege.Made)
    (unsaid : privilege.grantOption = none) (plain : IsPlain privilege.steps)
    (roles : Option (OrderedSet String)) :
    ∃ entries,
      ledger.included catalogue (Target.ofPrivilege privilege) roles = .ok entries ∧
      ∀ entry ∈ ledger.candidates roles,
        (∀ name ∈ entry.2.key.path.slots.used, isWildcard name = false) →
        ∃ found, catalogue.ofKey entry.2.key = .ok found ∧
          (entry ∈ entries ↔
            (privilege.withAction Action.allName).covers catalogue.vocabularies found = true) := by
  have coherent := attained.reachable.coherent registered
  obtain ⟨entries, included⟩ := coherent.exists_included (Target.ofPrivilege privilege) roles
  refine ⟨entries, included, fun entry isCandidate plainEntry => ?_⟩
  have stored := record?_of_mem_candidates isCandidate
  have fits := coherent.fits _ _ stored
  have low := attained.keyed registered _ _ stored
  obtain ⟨steps, -, read⟩ := fits.ofKey
  refine ⟨_, read, ?_⟩
  rw [mem_filterM_eq_ok included,
    ← fits.includes_iff_covers registered low plainEntry made.normal unsaid plain read]
  exact and_iff_right isCandidate

/-- A privilege for a shelf, spelled in other letters, includes the book that stands on it and
covers it for all actions. It does neither for another shelf. -/
theorem Ledger.included_iff_covers_library :
    ∃ (ledger : Ledger) (asked : Privilege) (entries : List (Nat × Record)),
      Attained Catalogue.library ledger ∧ asked.action = "mend" ∧
        asked.steps = [⟨"SHELF", "a"⟩] ∧
        ledger.included Catalogue.library (Target.ofPrivilege asked) none = .ok entries ∧
        (ledger.candidates none).map Prod.fst = [1, 2] ∧ entries.map Prod.fst = [1] ∧
        ∀ entry ∈ ledger.candidates none, ∃ found,
          Catalogue.library.ofKey entry.2.key = .ok found ∧
            (entry ∈ entries ↔ (asked.withAction Action.allName).covers
              Catalogue.library.vocabularies found = true) := by
  let book := libraryReading [⟨"shelf", "a"⟩, ⟨"book", "b"⟩]
  let other := libraryReading [⟨"shelf", "c"⟩]
  let asked : Privilege :=
    { libraryPrivilege "mend" with grantOption := none, steps := [⟨"SHELF", "a"⟩] }
  have bookBuilt : book.toDraft.build = .ok book := by decide +kernel
  have otherBuilt : other.toDraft.build = .ok other := by decide +kernel
  have askedMade : asked.Made := @Privilege.Made.built asked.toDraft _ (by decide +kernel)
  let naming : Operation := .createRole "Clerks" default
  let first : Operation := .grant "Clerks" book "olga" default
  let second : Operation := .grant "Clerks" other "olga" default
  let named := (naming.apply Catalogue.library empty).ledger
  let granted := (first.apply Catalogue.library named).ledger
  let ledger := (second.apply Catalogue.library granted).ledger
  have attained : Attained Catalogue.library ledger :=
    .apply (.apply (.apply .empty naming trivial) first ⟨_, bookBuilt⟩) second ⟨_, otherBuilt⟩
  have plain : ∀ entry ∈ ledger.candidates none, ∀ name ∈ entry.2.key.path.slots.used,
      isWildcard name = false := by decide +kernel
  have askedPlain : IsPlain asked.steps := by decide +kernel
  obtain ⟨entries, included, agree⟩ :=
    included_iff_covers Catalogue.registered_library attained askedMade rfl askedPlain none
  have numbers : (ledger.included Catalogue.library (Target.ofPrivilege asked) none).map
      (List.map Prod.fst) = .ok [1] := by decide +kernel
  rw [included] at numbers
  have candidates : (ledger.candidates none).map Prod.fst = [1, 2] := by decide +kernel
  exact ⟨ledger, asked, entries, attained, rfl, rfl, included, candidates, Except.ok.inj numbers,
    fun entry isCandidate => agree entry isCandidate (plain entry isCandidate)⟩

end Entitlement
