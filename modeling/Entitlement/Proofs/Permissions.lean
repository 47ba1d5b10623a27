/-
This file says what roles may do. The privileges of a role are its records read back, and this can
always be done; what they allow together is what the keys that the role holds allow. A key for `all`
allows whatever the same key allows for another action, which is why records may be traded for one
another.
-/

import Entitlement.Proofs.Covering
import Entitlement.Proofs.Edits

namespace Entitlement

/-! ### What a key allows -/

/-- Whether the privilege of a key allows what is asked for. -/
def Catalogue.KeyAllows (catalogue : Catalogue) (key : RecordKey) (asked : Privilege)
    (passing : Bool) : Prop :=
  ∃ found, catalogue.ofKey key = .ok found ∧ found.Allows catalogue.vocabularies asked passing

/-- A key that can be read back allows what its privilege does. -/
theorem Catalogue.Fits.keyAllows_iff {catalogue : Catalogue} {key : RecordKey}
    (fits : catalogue.Fits key) {steps : List Step}
    (decoded : catalogue.decode key.component key.path = .ok steps) {asked : Privilege}
    {passing : Bool} : catalogue.KeyAllows key asked passing ↔
      (key.toPrivilege steps).Allows catalogue.vocabularies asked passing := by
  obtain ⟨same, sameDecoded, read⟩ := fits.ofKey
  obtain rfl : steps = same := Except.ok.inj (decoded.symm.trans sameDecoded)
  constructor
  · rintro ⟨found, isFound, allows⟩
    rwa [Except.ok.inj (read.symm.trans isFound)]
  · exact fun allows => ⟨_, read, allows⟩

theorem Catalogue.Fits.withAll {catalogue : Catalogue} (registered : catalogue.Registered)
    {key : RecordKey} (fits : catalogue.Fits key) :
    catalogue.Fits (key.withAction Action.allName) := by
  obtain ⟨action, resolved, -⟩ := fits.action
  obtain ⟨all, isAll⟩ := Vocabularies.all_of_resolve (StoreError.lift_eq_ok.1 resolved)
  exact ⟨⟨all, StoreError.lift_eq_ok.2 (registered.resolve_all isAll),
    Vocabularies.name_of_all isAll⟩, fits.path⟩

/-- The key for `all` allows what the same key allows for another action. -/
theorem Catalogue.Fits.allows_all {catalogue : Catalogue} (registered : catalogue.Registered)
    {key : RecordKey} (fits : catalogue.Fits key) {asked : Privilege} {passing : Bool}
    (allows : catalogue.KeyAllows key asked passing) :
    catalogue.KeyAllows (key.withAction Action.allName) asked passing := by
  obtain ⟨steps, decoded, -⟩ := fits.ofKey
  obtain ⟨covers, option⟩ := (fits.keyAllows_iff decoded).1 allows
  have low : Text.lower Action.allName = Action.allName := by decide +kernel
  refine ((fits.withAll registered).keyAllows_iff decoded).2 ⟨?_, option⟩
  rw [RecordKey.toPrivilege, RecordKey.withAction, low]
  exact @Privilege.covers_all _ registered (key.toPrivilege steps) asked covers

/-! ### Records read back -/

/-- A privilege that is read back from records is read back from one of them. -/
theorem Catalogue.mem_of_ofRecords {catalogue : Catalogue} {entries : List (Nat × Record)}
    {privileges : List Privilege}
    (read : catalogue.ofRecords (entries.map Prod.snd) = .ok privileges) {privilege : Privilege}
    (member : privilege ∈ privileges) :
    ∃ entry ∈ entries, catalogue.ofKey entry.2.key = .ok privilege := by
  obtain ⟨all, allRead, rfl⟩ := map_eq_ok.1 read
  obtain ⟨record, isRecord, isRead⟩ :=
    mem_of_mapM_eq_ok allRead privilege (mem_of_mem_eraseDups member)
  obtain ⟨entry, isEntry, rfl⟩ := List.mem_map.1 isRecord
  exact ⟨entry, isEntry, isRead⟩

namespace Ledger

variable {catalogue : Catalogue} {ledger : Ledger}

/-- The records of a coherent ledger can all be read back. -/
theorem Coherent.exists_ofRecords (coherent : ledger.Coherent catalogue)
    {entries : List (Nat × Record)}
    (stored : ∀ entry ∈ entries, ledger.record? entry.1 = some entry.2) :
    ∃ privileges,
      catalogue.ofRecords (entries.map Prod.snd) = .ok (List.eraseDups privileges) ∧
        ∀ privilege, privilege ∈ privileges ↔
          ∃ entry ∈ entries, catalogue.ofKey entry.2.key = .ok privilege := by
  have readable : ∀ record ∈ entries.map Prod.snd,
      ∃ privilege, catalogue.ofKey record.key = .ok privilege := by
    rw [List.forall_mem_map]
    intro entry member
    obtain ⟨steps, -, read⟩ := (coherent.fits _ _ (stored entry member)).ofKey
    exact ⟨_, read⟩
  obtain ⟨privileges, allRead, isMember⟩ := exists_mapM_eq_ok readable
  refine ⟨privileges, map_eq_ok.2 ⟨privileges, allRead, rfl⟩, fun privilege => ?_⟩
  rw [isMember]
  simp only [List.mem_map, exists_exists_and_eq_and]

/-! ### What a role holds -/

/-- The privileges of roles can be read. What one of them has, if it does not tell equal privileges
apart, is had by the privilege of a key that one of the roles holds. -/
theorem Coherent.exists_privilegesOfRoles (coherent : ledger.Coherent catalogue)
    (roles : OrderedSet String) :
    ∃ held, ledger.privilegesOfRoles catalogue roles = .ok held ∧
      ∀ property : Privilege → Prop,
        (∀ privilege other : Privilege, (privilege == other) = true →
          property privilege → property other) →
        ((∃ other ∈ held, property other) ↔
          ∃ role ∈ roles, ∃ key, ledger.HoldsKey role key ∧
            ∃ found, catalogue.ofKey key = .ok found ∧ property found) := by
  obtain ⟨privileges, read, isMember⟩ :=
    coherent.exists_ofRecords fun _ member => record?_of_mem_candidates member
  refine ⟨_, read, fun property respects => ?_⟩
  rw [exists_mem_eraseDups respects]
  constructor
  · rintro ⟨privilege, isRead, has⟩
    obtain ⟨entry, isCandidate, isPrivilege⟩ := (isMember privilege).1 isRead
    obtain ⟨found, role, isRole, isHolding⟩ := mem_candidates.1 isCandidate
    exact ⟨role, isRole, entry.2.key, ⟨entry.1, entry.2, isHolding, found, rfl⟩, privilege,
      isPrivilege, has⟩
  · rintro ⟨role, isRole, key, ⟨number, record, isHolding, found, rfl⟩, privilege, isPrivilege, has⟩
    have isCandidate : (number, record) ∈ ledger.candidates (some roles) :=
      mem_candidates.2 ⟨found, role, isRole, isHolding⟩
    exact ⟨privilege, (isMember privilege).2 ⟨_, isCandidate, isPrivilege⟩, has⟩

/-- The privileges of roles can be read, and they allow what the keys that the roles hold do. -/
theorem Coherent.privilegesOfRoles (coherent : ledger.Coherent catalogue)
    (roles : OrderedSet String) :
    ∃ held, ledger.privilegesOfRoles catalogue roles = .ok held ∧ ∀ asked passing,
      (∃ other ∈ held, other.Allows catalogue.vocabularies asked passing) ↔
        ∃ role ∈ roles, ∃ key, ledger.HoldsKey role key ∧
          catalogue.KeyAllows key asked passing := by
  obtain ⟨held, read, has⟩ := coherent.exists_privilegesOfRoles roles
  exact ⟨held, read, fun asked passing => has (fun other =>
    other.Allows catalogue.vocabularies asked passing) fun _ _ => Privilege.allows_of_beq⟩

theorem Coherent.fits_of_holdsKey (coherent : ledger.Coherent catalogue) {role : String}
    {key : RecordKey} (holds : ledger.HoldsKey role key) : catalogue.Fits key := by
  obtain ⟨number, record, -, found, rfl⟩ := holds
  exact coherent.fits number record found

theorem mem_normalizeAll {names : List String} {name : String} :
    name ∈ normalizeAll names ↔ name ∈ names.map Text.normalize := by
  rw [normalizeAll, OrderedSet.mem_ofList]

theorem mem_normalizeAll_singleton {name role : String} :
    role ∈ normalizeAll [name] ↔ role = Text.normalize name := by
  rw [mem_normalizeAll, List.map_singleton, List.mem_singleton]

end Ledger

end Entitlement
