/-
This file proves that what is granted under a component and a service is found under them and can be
moved under them, provided that there are no blanks around the two names. Making a privilege keeps
such blanks, and so do the records of what was granted; a query of a service and a rename drop them,
and then look for records without them. A privilege whose names have blanks around them can be
granted and is reported for its role, but no query of its service finds it and no rename moves it.
-/

import Entitlement.Proofs.Lowered
import Entitlement.Proofs.Permissions
import Entitlement.Proofs.Renaming

namespace Entitlement

/-! ### What is read back from a key in lower case -/

namespace Catalogue

variable {catalogue : Catalogue}

/-- A privilege that is read back from a key in lower case has the names and the path of the key. -/
theorem Fits.names_of_ofKey {key : RecordKey} (fits : catalogue.Fits key) (low : key.Lowered)
    {privilege : Privilege} (read : catalogue.ofKey key = .ok privilege) :
    privilege.component = key.component ∧ privilege.service = key.service ∧
      catalogue.decode key.component key.path = .ok privilege.steps := by
  obtain ⟨steps, decoded, isRead⟩ := fits.ofKey
  obtain rfl : key.toPrivilege steps = privilege := Except.ok.inj (isRead.symm.trans read)
  refine ⟨low.component, low.service, ?_⟩
  rw [RecordKey.toPrivilege, map_lowered_of_decode low.names decoded]
  exact decoded

/-- Its service includes it at every path that its own begins with, if there are no blanks around
its names. -/
theorem Fits.includes_ofService {key : RecordKey} (fits : catalogue.Fits key) (low : key.Lowered)
    {privilege : Privilege} (read : catalogue.ofKey key = .ok privilege)
    {component service : String} (isComponent : privilege.component = component)
    (isService : privilege.service = service) (tidyComponent : Text.trim component = component)
    (tidyService : Text.trim service = service) {start : List Step}
    (lowStart : start.map Step.lowered = start)
    (begins : start.isPrefixOf privilege.steps = true) :
    (Target.ofService component service start).includes catalogue key = .ok true := by
  obtain ⟨sameComponent, sameService, decoded⟩ := fits.names_of_ofKey low read
  refine includes_eq_ok_true.2 ⟨?_, privilege.steps, decoded, ?_⟩
  · rw [Target.agrees, Target.ofService, tidyComponent, tidyService, ← isComponent, ← isService,
      sameComponent, sameService, low.component, low.service]
    simp
  · rw [Target.ofService, lowStart]
    exact begins

end Catalogue

namespace Ledger

variable {catalogue : Catalogue} {ledger next : Ledger}

/-! ### Queries -/

/-- A privilege that roles have is read back from a key that one of them holds. -/
theorem holdsKey_of_mem_privilegesOfRoles {roles : OrderedSet String} {held : List Privilege}
    (isHeld : ledger.privilegesOfRoles catalogue roles = .ok held) {privilege : Privilege}
    (member : privilege ∈ held) : ∃ entry ∈ ledger.candidates (some roles),
      catalogue.ofKey entry.2.key = .ok privilege ∧
        ∃ role ∈ roles, ledger.HoldsKey role entry.2.key := by
  obtain ⟨entry, isCandidate, isRead⟩ := Catalogue.mem_of_ofRecords isHeld member
  obtain ⟨found, role, isRole, isHolding⟩ := mem_candidates.1 isCandidate
  exact ⟨entry, isCandidate, isRead, role, isRole, entry.1, entry.2, isHolding, found, rfl⟩

/-- The query of a service finds what its roles have there. -/
theorem Coherent.privilegesOfService (coherent : ledger.Coherent catalogue)
    (low : ledger.HoldsLowered) {roles : OrderedSet String} {held : List Privilege}
    (isHeld : ledger.privilegesOfRoles catalogue roles = .ok held) {component service : String}
    (tidyComponent : Text.trim component = component) (tidyService : Text.trim service = service)
    {start : List Step} (lowStart : start.map Step.lowered = start) :
    ∃ found, ledger.privilegesOfService catalogue component service (some roles) start =
        .ok found ∧
      ∀ other ∈ held, other.component = component → other.service = service →
        start.isPrefixOf other.steps = true → found.contains other = true := by
  obtain ⟨entries, included⟩ :=
    coherent.exists_included (Target.ofService component service start) (some roles)
  obtain ⟨privileges, allRead, isMember⟩ := coherent.exists_ofRecords fun entry isEntry =>
    record?_of_mem_candidates ((mem_filterM_eq_ok included entry).1 isEntry).1
  refine ⟨_, bind_eq_ok.2 ⟨entries, included, allRead⟩, ?_⟩
  intro other member isComponent isService begins
  obtain ⟨entry, isCandidate, read, role, -, holds⟩ :=
    holdsKey_of_mem_privilegesOfRoles isHeld member
  have includes := (coherent.fits_of_holdsKey holds).includes_ofService (low role _ holds) read
    isComponent isService tidyComponent tidyService lowStart begins
  have isEntry := (mem_filterM_eq_ok included entry).2 ⟨isCandidate, includes⟩
  exact Privilege.contains_eraseDups ((isMember other).2 ⟨entry, isEntry, read⟩)

/-- A query for one role is about this role, if it exists. -/
theorem namedRoles_singleton {role : String} (known : ledger.hasRole role = true) :
    Store.namedRoles ledger [role] [] = some (normalizeAll [role]) := by
  have noGroups : ∀ name, name ∉ ledger.rolesOfGroups [] := by
    intro name member
    unfold rolesOfGroups at member
    obtain ⟨link, isLink, -⟩ := List.mem_map.1 (OrderedSet.mem_ofList.1 member)
    have inNone := OrderedSet.contains_iff.1 (List.mem_filter.1 isLink).2
    exact OrderedSet.not_mem_empty _ inNone
  unfold Store.namedRoles
  rw [if_neg (by simp)]
  refine congrArg some (OrderedSet.ext_mem fun name => ?_)
  rw [OrderedSet.mem_union, OrderedSet.mem_filter, mem_normalizeAll_singleton]
  constructor
  · rintro (isRole | inGroups)
    · exact isRole.1
    · exact absurd inGroups (noGroups name)
  · rintro rfl
    exact Or.inl ⟨rfl, (hasRole_normalize role).trans known⟩

/-- A rename leaves no role a privilege under the old steps. -/
theorem Attained.none_after_rename (registered : catalogue.Registered)
    (attained : Attained catalogue ledger) {component service : String} {start new : List Step}
    {now : Timestamp} (tidyComponent : Text.trim component = component)
    (tidyService : Text.trim service = service) (lowStart : start.map Step.lowered = start)
    (apart : (start == new.map Step.lowered) = false)
    (renamed : (ledger.rename catalogue component service start new now).result = .ok next)
    (roles : OrderedSet String) :
    ∃ left, next.privilegesOfRoles catalogue roles = .ok left ∧
      ∀ other ∈ left, other.component = component → other.service = service →
        start.isPrefixOf other.steps = false := by
  have attainedNext : Attained catalogue next := by
    have after := attained.apply (.rename component service start new now) trivial
    rwa [Operation.apply, Edited.result_eq_ok renamed] at after
  have coherentNext := attainedNext.reachable.coherent registered
  obtain ⟨left, isLeft, -⟩ := coherentNext.privilegesOfRoles roles
  refine ⟨left, isLeft, fun other member isComponent isService => ?_⟩
  rw [← Bool.not_eq_true]
  intro under
  obtain ⟨entry, -, read, role, -, holds⟩ := holdsKey_of_mem_privilegesOfRoles isLeft member
  rw [← lowStart] at apart
  refine (attained.reachable.coherent registered).rename_leaves_none registered apart renamed role
    _ holds ?_
  exact (coherentNext.fits_of_holdsKey holds).includes_ofService
    (attainedNext.holdsLowered registered role _ holds) read isComponent isService tidyComponent
    tidyService lowStart under

/-! ### What was granted -/

theorem hasRole_of_grant {role grantor : String} {privilege : Privilege} {now : Timestamp}
    (granted : (ledger.grant catalogue role privilege grantor now).result = .ok next) :
    ledger.hasRole role = true := by
  rw [Ledger.grant, Edited.result_ofResult] at granted
  obtain ⟨name, required, -⟩ := bind_eq_ok.1 granted
  exact (requireRole_eq_ok.1 required).1

/-- What is granted under a component and a service, without blanks around their names, is found and
moved under them. A query of the service for the role finds every privilege of the role that begins
with the same steps, and a rename of these steps to others leaves the role none that does. -/
theorem granted_found_and_moved {role grantor : String} {draft : PrivilegeDraft}
    {privilege : Privilege} {now : Timestamp} {start : List Step}
    (registered : catalogue.Registered) (attained : Attained catalogue ledger)
    (built : draft.build = .ok privilege)
    (granted : (ledger.grant catalogue role privilege grantor now).result = .ok next)
    (tidyComponent : Text.trim privilege.component = privilege.component)
    (tidyService : Text.trim privilege.service = privilege.service)
    (begins : start <+: privilege.steps) :
    ∃ held found, next.privilegesOfRoles catalogue (normalizeAll [role]) = .ok held ∧
      Store.namedRoles next [role] [] = some (normalizeAll [role]) ∧
      next.privilegesOfService catalogue privilege.component privilege.service
        (some (normalizeAll [role])) start = .ok found ∧
      (∀ other ∈ held, other.component = privilege.component →
        other.service = privilege.service → start.isPrefixOf other.steps = true →
          found.contains other = true) ∧
      ∀ (new : List Step) (later : Timestamp) (renamed : Ledger),
        (start == new.map Step.lowered) = false →
        (next.rename catalogue privilege.component privilege.service start new later).result =
          .ok renamed →
        ∃ left, renamed.privilegesOfRoles catalogue (normalizeAll [role]) = .ok left ∧
          ∀ other ∈ left, other.component = privilege.component →
            other.service = privilege.service → start.isPrefixOf other.steps = false := by
  have coherent := attained.reachable.coherent registered
  obtain ⟨_, _, -, -, -, given⟩ := coherent.granted_of_grant registered granted
  have known : next.hasRole role = true :=
    ((given.coherent_grows coherent).2.hasRole role).trans (hasRole_of_grant granted)
  have attainedNext : Attained catalogue next := by
    have after := attained.apply (.grant role privilege grantor now) ⟨draft, built⟩
    rwa [Operation.apply, Edited.result_eq_ok granted] at after
  have coherentNext := attainedNext.reachable.coherent registered
  have low := (PrivilegeDraft.lowered_of_build built).2.2
  have lowStart : start.map Step.lowered = start := Step.map_lowered_eq_self.2 fun step member =>
    Step.map_lowered_eq_self.1 low step (begins.subset member)
  obtain ⟨held, isHeld, -⟩ := coherentNext.privilegesOfRoles (normalizeAll [role])
  obtain ⟨found, isFound, contains⟩ := coherentNext.privilegesOfService
    (attainedNext.holdsLowered registered) isHeld tidyComponent tidyService lowStart
  exact ⟨held, found, isHeld, namedRoles_singleton known, isFound, contains,
    fun new later renamed apart moved => attainedNext.none_after_rename registered tidyComponent
      tidyService lowStart apart moved (normalizeAll [role])⟩

/-- A book that a role was granted to read is found on its shelf, until the shelf is renamed. -/
theorem granted_found_and_moved_library :
    ∃ (ledger next renamed : Ledger) (held found left : List Privilege),
      Attained Catalogue.library ledger ∧
      (ledger.grant Catalogue.library "Clerks"
        (libraryReading [⟨"shelf", "a"⟩, ⟨"book", "b"⟩]) "olga" default).result = .ok next ∧
      next.privilegesOfRoles Catalogue.library (normalizeAll ["Clerks"]) = .ok held ∧
      next.privilegesOfService Catalogue.library "library" "lending"
        (some (normalizeAll ["Clerks"])) [⟨"shelf", "a"⟩] = .ok found ∧
      found.contains (libraryReading [⟨"shelf", "a"⟩, ⟨"book", "b"⟩]) = true ∧
      (next.rename Catalogue.library "library" "lending" [⟨"shelf", "a"⟩] [⟨"shelf", "c"⟩]
        default).result = .ok renamed ∧
      renamed.privilegesOfRoles Catalogue.library (normalizeAll ["Clerks"]) = .ok left ∧
      left ≠ [] ∧ ∀ other ∈ left, other.component = "library" → other.service = "lending" →
        [(⟨"shelf", "a"⟩ : Step)].isPrefixOf other.steps = false := by
  let book := libraryReading [⟨"shelf", "a"⟩, ⟨"book", "b"⟩]
  let naming : Operation := .createRole "Clerks" default
  let named := naming.apply Catalogue.library empty
  let granted := named.ledger.grant Catalogue.library "Clerks" book "olga" default
  let moved := granted.ledger.rename Catalogue.library "library" "lending" [⟨"shelf", "a"⟩]
    [⟨"shelf", "c"⟩] default
  have attained : Attained Catalogue.library named.ledger := .apply .empty naming trivial
  have built : book.toDraft.build = .ok book := by decide +kernel
  have ended : granted.failure.isNone = true := by decide +kernel
  have movedEnded : moved.failure.isNone = true := by decide +kernel
  have done := Edited.result_of_isNone ended
  have movedDone := Edited.result_of_isNone movedEnded
  have begins : [⟨"shelf", "a"⟩] <+: book.steps := by decide
  obtain ⟨held, found, isHeld, -, isFound, contains, leaves⟩ :=
    granted_found_and_moved Catalogue.registered_library attained built done (by decide)
      (by decide) begins
  obtain ⟨left, isLeft, none⟩ :=
    leaves [⟨"shelf", "c"⟩] default moved.ledger (by decide +kernel) movedDone
  have single : granted.ledger.privilegesOfRoles Catalogue.library (normalizeAll ["Clerks"]) =
      .ok [book] := by decide +kernel
  have movedSingle : moved.ledger.privilegesOfRoles Catalogue.library (normalizeAll ["Clerks"]) =
      .ok [libraryReading [⟨"shelf", "c"⟩, ⟨"book", "b"⟩]] := by decide +kernel
  obtain rfl : held = [book] := Except.ok.inj (isHeld.symm.trans single)
  obtain rfl := Except.ok.inj (isLeft.symm.trans movedSingle)
  exact ⟨named.ledger, granted.ledger, moved.ledger, _, found, _, attained, done, isHeld, isFound,
    contains book (List.mem_singleton_self _) rfl rfl (by decide +kernel), movedDone, isLeft,
    List.cons_ne_nil _ _, none⟩

/-- With blanks around the names of the component and the service, what was granted is reported for
its role but neither found by a query of the service nor moved by a rename. -/
theorem granted_with_blanks_lost :
    ∃ (ledger next renamed : Ledger) (privilege : Privilege),
      Attained Catalogue.library ledger ∧ privilege.toDraft.build = .ok privilege ∧
      (ledger.grant Catalogue.library "Clerks" privilege "olga" default).result = .ok next ∧
      next.privilegesOfRoles Catalogue.library (normalizeAll ["Clerks"]) = .ok [privilege] ∧
      next.privilegesOfService Catalogue.library privilege.component privilege.service
        (some (normalizeAll ["Clerks"])) privilege.steps = .ok [] ∧
      (next.rename Catalogue.library privilege.component privilege.service privilege.steps
        [⟨"shelf", "c"⟩] default).result = .ok renamed ∧
      (privilege.steps == [⟨"shelf", "c"⟩]) = false ∧
      renamed.privilegesOfRoles Catalogue.library (normalizeAll ["Clerks"]) =
        .ok [privilege] := by
  let privilege : Privilege := { libraryReading [⟨"shelf", "a"⟩] with
    component := " library"
    service := "lending " }
  let naming : Operation := .createRole "Clerks" default
  let named := naming.apply Catalogue.library empty
  let granted := named.ledger.grant Catalogue.library "Clerks" privilege "olga" default
  let moved := granted.ledger.rename Catalogue.library privilege.component privilege.service
    privilege.steps [⟨"shelf", "c"⟩] default
  have ended : granted.failure.isNone = true := by decide +kernel
  have movedEnded : moved.failure.isNone = true := by decide +kernel
  refine ⟨named.ledger, granted.ledger, moved.ledger, privilege, .apply .empty naming trivial, ?_,
    Edited.result_of_isNone ended, ?_, ?_, Edited.result_of_isNone movedEnded, ?_, ?_⟩
  · decide +kernel
  · decide +kernel
  · decide +kernel
  · decide +kernel
  · decide +kernel

end Ledger

end Entitlement
