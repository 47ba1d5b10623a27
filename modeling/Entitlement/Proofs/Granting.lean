/-
This file proves that a grant adds what was granted and nothing else. It does not always add a
record: a role that holds `all` is left as it is, and a role that is granted `all` loses the
records of the members. Neither changes what the role may do, because a key for `all` allows
whatever the same key allows for another action. What other roles hold stays as it is.
-/

import Entitlement.Proofs.Exclusion
import Entitlement.Proofs.Permissions

namespace Entitlement

namespace Ledger

variable {catalogue : Catalogue} {ledger next : Ledger}

/-! ### What a grant does -/

/-- After a key was given to a role, its keys allow what they allowed before or what the new key
does. -/
theorem Granted.allows (registered : catalogue.Registered) (coherent : ledger.Coherent catalogue)
    {name : String} {key : RecordKey} (fits : catalogue.Fits key) {all : Action}
    (granted : Granted catalogue ledger name key all next) (asked : Privilege) (passing : Bool) :
    (∃ held, next.HoldsKey name held ∧ catalogue.KeyAllows held asked passing) ↔
      (∃ held, ledger.HoldsKey name held ∧ catalogue.KeyAllows held asked passing) ∨
        catalogue.KeyAllows key asked passing := by
  cases granted with
  | whole forAll becomes =>
    constructor
    · rintro ⟨held, holds, allows⟩
      rcases (becomes.holdsKey name held).1 holds with ⟨earlier, -⟩ | ⟨-, rfl⟩
      · exact Or.inl ⟨held, earlier, allows⟩
      · exact Or.inr allows
    · have isNew : next.HoldsKey name key := (becomes.holdsKey name key).2 (Or.inr ⟨rfl, rfl⟩)
      rintro (⟨held, holds, allows⟩ | allows)
      · by_cases lost : ∃ member ∈ all.members, held = key.withAction member.name
        · obtain ⟨member, -, rfl⟩ := lost
          have wider := (coherent.fits_of_holdsKey holds).allows_all registered allows
          rw [RecordKey.withAction_withAction, ← forAll, RecordKey.withAction_self] at wider
          exact ⟨key, isNew, wider⟩
        · exact ⟨held, (becomes.holdsKey name held).2 (Or.inl ⟨holds, fun both => lost both.2⟩),
            allows⟩
      · exact ⟨key, isNew, allows⟩
  | needless _ holds =>
    refine ⟨Or.inl, ?_⟩
    rintro (already | allows)
    · exact already
    · exact ⟨_, holds, fits.allows_all registered allows⟩
  | added _ _ becomes =>
    constructor
    · rintro ⟨held, holds, allows⟩
      rcases (becomes.holdsKey name held).1 holds with earlier | ⟨-, rfl⟩
      · exact Or.inl ⟨held, earlier, allows⟩
      · exact Or.inr allows
    · rintro (⟨held, holds, allows⟩ | allows)
      · exact ⟨held, (becomes.holdsKey name held).2 (Or.inl holds), allows⟩
      · exact ⟨key, (becomes.holdsKey name key).2 (Or.inr ⟨rfl, rfl⟩), allows⟩

/-- The keys of other roles stay. -/
theorem Granted.holdsKey_other {name : String} {key : RecordKey} {all : Action}
    (granted : Granted catalogue ledger name key all next) {other : String}
    (apart : other ≠ name) (held : RecordKey) :
    next.HoldsKey other held ↔ ledger.HoldsKey other held := by
  cases granted with
  | whole _ becomes =>
    rw [becomes.holdsKey]
    simp [apart]
  | needless => exact Iff.rfl
  | added _ _ becomes =>
    rw [becomes.holdsKey]
    simp [apart]

/-- A role that holds the same keys in a ledger that has grown holds the same records. -/
theorem Grows.mem_holdings (grows : ledger.Grows next) (coherent : ledger.Coherent catalogue)
    (coherentNext : next.Coherent catalogue) {role : String}
    (same : ∀ key, next.HoldsKey role key ↔ ledger.HoldsKey role key) (number : Nat) :
    ⟨role, number⟩ ∈ next.holdings ↔ ⟨role, number⟩ ∈ ledger.holdings := by
  constructor
  · intro member
    obtain ⟨-, record, found⟩ := coherentNext.holding _ member
    have held := (same record.key).1 ⟨number, record, member, found, rfl⟩
    obtain ⟨old, oldRecord, oldMember, oldFound, equal⟩ := held
    have oldNumber := coherentNext.apart old number oldRecord record
      (grows.record old oldRecord oldFound) found equal
    exact oldNumber ▸ oldMember
  · intro member
    obtain ⟨-, record, found⟩ := coherent.holding _ member
    have held := (same record.key).2 ⟨number, record, member, found, rfl⟩
    exact (coherentNext.holdsKey_iff_mem (grows.record number record found)).1 held

/-- Roles that hold the same keys in a ledger that has grown have the same privileges. -/
theorem Grows.privilegesOfRoles_eq (grows : ledger.Grows next)
    (coherent : ledger.Coherent catalogue) (coherentNext : next.Coherent catalogue)
    {roles : OrderedSet String}
    (same : ∀ role ∈ roles, ∀ key, next.HoldsKey role key ↔ ledger.HoldsKey role key) :
    next.privilegesOfRoles catalogue roles = ledger.privilegesOfRoles catalogue roles := by
  have numbers : next.recordsOfRoles roles = ledger.recordsOfRoles roles := by
    refine OrderedSet.ext_mem fun number => ?_
    rw [mem_recordsOfRoles, mem_recordsOfRoles]
    refine exists_congr fun role => and_congr_right fun isRole => ?_
    exact grows.mem_holdings coherent coherentNext (same role isRole) number
  have entries : next.candidates (some roles) = ledger.candidates (some roles) := by
    unfold candidates
    dsimp only
    rw [numbers]
    refine List.filterMap_congr fun number member => ?_
    obtain ⟨role, -, isHolding⟩ := mem_recordsOfRoles.1 member
    obtain ⟨-, record, found⟩ := coherent.holding _ isHolding
    rw [found, grows.record number record found]
  rw [privilegesOfRoles, privilegesOfRoles, entries]

/-- What a role may do after a grant is what it might do before, or what the privilege allows,
whether or not it is to be passed on. -/
theorem grant_allows (registered : catalogue.Registered) (coherent : ledger.Coherent catalogue)
    {role : String} {draft : PrivilegeDraft} {privilege : Privilege}
    (built : draft.build = .ok privilege) {grantor : String} {now : Timestamp}
    (granted : (ledger.grant catalogue role privilege grantor now).result = .ok next) :
    ∃ held heldNext,
      ledger.privilegesOfRoles catalogue (normalizeAll [role]) = .ok held ∧
      next.privilegesOfRoles catalogue (normalizeAll [role]) = .ok heldNext ∧
      ∀ asked passing, (∃ other ∈ heldNext, other.Allows catalogue.vocabularies asked passing) ↔
        (∃ other ∈ held, other.Allows catalogue.vocabularies asked passing) ∨
          privilege.Allows catalogue.vocabularies asked passing := by
  obtain ⟨key, all, keyed, fits, -, given⟩ := coherent.granted_of_grant registered granted
  obtain ⟨found, isFound, same⟩ := Catalogue.allows_ofKey registered built keyed
  have keyAllows : ∀ asked passing, catalogue.KeyAllows key asked passing ↔
      privilege.Allows catalogue.vocabularies asked passing := by
    intro asked passing
    rw [← same asked passing]
    constructor
    · rintro ⟨read, isRead, allows⟩
      rwa [← Except.ok.inj (isRead.symm.trans isFound)]
    · exact fun allows => ⟨found, isFound, allows⟩
  obtain ⟨held, isHeld, before⟩ := coherent.privilegesOfRoles (normalizeAll [role])
  obtain ⟨heldNext, isHeldNext, after⟩ :=
    (given.coherent_grows coherent).1.privilegesOfRoles (normalizeAll [role])
  refine ⟨held, heldNext, isHeld, isHeldNext, fun asked passing => ?_⟩
  rw [before, after]
  simp only [mem_normalizeAll_singleton, exists_eq_left]
  rw [given.allows registered coherent fits, keyAllows]

/-- A grant adds just what was granted. A role to which a privilege is granted covers afterwards
what it covered before and what the privilege covers; what it may pass on is what it might pass
on before and, if the privilege says so, what the privilege covers. Other roles have the same
privileges as before. -/
theorem grant_exact {role : String} {draft : PrivilegeDraft} {privilege : Privilege}
    {grantor : String} {now : Timestamp} (registered : catalogue.Registered)
    (reached : Reachable catalogue ledger) (built : draft.build = .ok privilege)
    (granted : (ledger.grant catalogue role privilege grantor now).result = .ok next) :
    ∃ held heldNext,
      ledger.privilegesOfRoles catalogue (normalizeAll [role]) = .ok held ∧
      next.privilegesOfRoles catalogue (normalizeAll [role]) = .ok heldNext ∧
      (∀ asked, (∃ other ∈ heldNext, other.covers catalogue.vocabularies asked = true) ↔
        (∃ other ∈ held, other.covers catalogue.vocabularies asked = true) ∨
          privilege.covers catalogue.vocabularies asked = true) ∧
      (∀ asked,
        (∃ other ∈ heldNext, other.covers catalogue.vocabularies asked = true ∧
          other.grantOption = some true) ↔
        (∃ other ∈ held, other.covers catalogue.vocabularies asked = true ∧
          other.grantOption = some true) ∨
          (privilege.covers catalogue.vocabularies asked = true ∧
            privilege.grantOption = some true)) ∧
      ∀ other, Text.normalize other ≠ Text.normalize role →
        next.privilegesOfRoles catalogue (normalizeAll [other]) =
          ledger.privilegesOfRoles catalogue (normalizeAll [other]) := by
  have coherent := reached.coherent registered
  obtain ⟨held, heldNext, isHeld, isHeldNext, allows⟩ :=
    grant_allows registered coherent built granted
  refine ⟨held, heldNext, isHeld, isHeldNext, fun asked => ?_, fun asked => ?_, ?_⟩
  · simpa [Privilege.Allows] using allows asked false
  · simpa [Privilege.Allows] using allows asked true
  · intro other apart
    obtain ⟨key, all, -, -, -, given⟩ := coherent.granted_of_grant registered granted
    obtain ⟨coherentNext, grows⟩ := given.coherent_grows coherent
    refine grows.privilegesOfRoles_eq coherent coherentNext fun name isOther key => ?_
    rw [mem_normalizeAll_singleton.1 isOther]
    exact given.holdsKey_other apart key

/-- A role that may read is granted everything on the shelf, and then may lend. -/
theorem grant_exact_library :
    ∃ (ledger next : Ledger) (held heldNext : List Privilege),
      Reachable Catalogue.library ledger ∧
      (ledger.grant Catalogue.library "Clerks" (libraryPrivilege "all") "olga" default).result =
        .ok next ∧
      ledger.holdings.elements = [⟨"clerks", 1⟩] ∧ next.holdings.elements = [⟨"clerks", 2⟩] ∧
      ledger.privilegesOfRoles Catalogue.library (normalizeAll ["Clerks"]) = .ok held ∧
      next.privilegesOfRoles Catalogue.library (normalizeAll ["Clerks"]) = .ok heldNext ∧
      ∃ other ∈ heldNext,
        other.covers Catalogue.library.vocabularies (libraryPrivilege "lend") = true := by
  let named := (Operation.createRole "Clerks" default).apply Catalogue.library empty
  let reading := (Operation.grant "Clerks" (libraryPrivilege "read") "olga" default).apply
    Catalogue.library named.ledger
  let whole := reading.ledger.grant Catalogue.library "Clerks" (libraryPrivilege "all") "olga"
    default
  have reached : Reachable Catalogue.library reading.ledger := .apply (.apply .empty _) _
  have built : (libraryPrivilege "all").toDraft.build = .ok (libraryPrivilege "all") := rfl
  have ended : whole.failure.isNone = true := by decide +kernel
  have granted := Edited.result_of_isNone ended
  obtain ⟨held, heldNext, isHeld, isHeldNext, covers, -, -⟩ :=
    grant_exact Catalogue.registered_library reached built granted
  have lends : (libraryPrivilege "all").covers Catalogue.library.vocabularies
      (libraryPrivilege "lend") = true := by decide +kernel
  refine ⟨reading.ledger, whole.ledger, held, heldNext, reached, granted, ?_, ?_, isHeld,
    isHeldNext, (covers _).2 (Or.inr lends)⟩
  · decide +kernel
  · decide +kernel

end Ledger

end Entitlement
