/-
This file proves that revoking one action leaves a role the others, as far as they are members of
`all`. A record for `all` stands for its members when it is taken apart, and these are given out one
by one in its place.

When it is held, though, a record for `all` covers every action of its component, members or not.
The two agree where `all` lists every action of its component. Where it does not, a role that loses
one action loses with it whatever only `all` gave it.
-/

import Entitlement.Proofs.Exclusion
import Entitlement.Proofs.Lowered
import Entitlement.Proofs.Permissions
import Entitlement.Proofs.Revoking

namespace Entitlement

namespace Catalogue

variable {catalogue : Catalogue}

/-! ### Keys for single actions -/

/-- What is allowed by the key for `all` and asked for by a member of `all` is allowed by the key
for the member. -/
theorem Fits.allows_member (registered : catalogue.Registered) {key : RecordKey}
    (fits : catalogue.Fits key) (low : Text.lower key.component = key.component)
    {all member other : Action} (isAll : catalogue.all key.component = .ok all)
    (isMember : member ∈ all.members) {asked : Privilege}
    (resolved : catalogue.resolve key.component asked.action = .ok other)
    (same : member.name = other.name) {passing : Bool}
    (allows : catalogue.KeyAllows key asked passing) :
    catalogue.KeyAllows (key.withAction member.name) asked passing := by
  obtain ⟨known, single⟩ := registered.resolve_member (StoreError.lift_eq_ok.1 isAll) isMember
  have spelled := registered.lower_name known
  obtain ⟨steps, decoded, -⟩ := fits.ofKey
  obtain ⟨covers, option⟩ := (fits.keyAllows_iff decoded).1 allows
  obtain ⟨names, -, path⟩ := Privilege.covers_iff.1 covers
  refine ((fits.withMember registered isAll isMember).keyAllows_iff decoded).2
    ⟨Privilege.covers_iff.2 ⟨names, ⟨all, member, other, ?_, ?_, ?_, ?_⟩, path⟩, option⟩
  · rw [RecordKey.toPrivilege, RecordKey.withAction, low]
    exact StoreError.lift_eq_ok.1 isAll
  · rw [RecordKey.toPrivilege, RecordKey.withAction, low, spelled]
    exact known
  · rw [RecordKey.toPrivilege, RecordKey.withAction, low]
    exact StoreError.lift_eq_ok.1 resolved
  · exact (actionCovers_iff (Vocabularies.name_of_all (StoreError.lift_eq_ok.1 isAll))).2
      (Or.inr ⟨same ▸ single, same⟩)

/-- A key for one action other than `all` allows only what is asked for by this action. -/
theorem Fits.name_eq_of_allows (registered : catalogue.Registered) {key : RecordKey}
    (fits : catalogue.Fits key) (low : Text.lower key.component = key.component)
    (single : key.action ≠ Action.allName) {other : Action} {asked : Privilege}
    (resolved : catalogue.resolve key.component asked.action = .ok other) {passing : Bool}
    (allows : catalogue.KeyAllows key asked passing) : key.action = other.name := by
  obtain ⟨action, known, named⟩ := fits.action
  have spelled : Text.lower key.action = key.action :=
    named ▸ registered.lower_name (StoreError.lift_eq_ok.1 known)
  obtain ⟨steps, decoded, -⟩ := fits.ofKey
  obtain ⟨-, ⟨all, held, found, isAll, isHeld, isFound, covered⟩, -⟩ :=
    Privilege.covers_iff.1 ((fits.keyAllows_iff decoded).1 allows).1
  rw [RecordKey.toPrivilege, low] at isAll isHeld isFound
  obtain rfl : found = other :=
    Except.ok.inj (isFound.symm.trans (StoreError.lift_eq_ok.1 resolved))
  rw [spelled, StoreError.lift_eq_ok.1 known] at isHeld
  obtain rfl : action = held := Except.ok.inj isHeld
  rcases (actionCovers_iff (Vocabularies.name_of_all isAll)).1 covered with whole | ⟨-, same⟩
  · exact absurd (named.symm.trans whole) single
  · rw [← named, same]

end Catalogue

namespace Ledger

variable {catalogue : Catalogue} {ledger next : Ledger}

/-! ### What a revocation spares -/

/-- The keys that a role has after an action was taken from some of them allow for another member
of `all` what those allowed that it had before. -/
theorem HoldsLowered.retained_allows (low : ledger.HoldsLowered)
    (registered : catalogue.Registered) (coherent : ledger.Coherent catalogue)
    {component : String} {all action other : Action} (isAll : catalogue.all component = .ok all)
    (single : action.name ≠ Action.allName) {asked : Privilege}
    (resolved : catalogue.resolve component asked.action = .ok other)
    (included : all.includes other = true) (apart : other.name ≠ action.name)
    {chosen : String → RecordKey → Prop}
    (placed : ∀ role key, chosen role key → ledger.HoldsKey role key ∧ key.component = component)
    (role : String) (passing : Bool) :
    (∃ key, catalogue.Retained action ledger.HoldsKey chosen role key ∧
        catalogue.KeyAllows key asked passing) ↔
      ∃ key, ledger.HoldsKey role key ∧ catalogue.KeyAllows key asked passing := by
  constructor
  · rintro ⟨key, ⟨isHeld, -⟩ | ⟨whole, isChosen, all, isAll, left, isLeft, rfl⟩, allows⟩
    · exact ⟨key, isHeld, allows⟩
    · obtain ⟨isWhole, -, isMember, -⟩ := RecordKey.mem_leftActions.1 isLeft
      have isHeld := (placed role whole isChosen).1
      have fits := (coherent.fits_of_holdsKey isHeld).withMember registered isAll isMember
      have wider := fits.allows_all registered allows
      rw [RecordKey.withAction_withAction, ← isWhole, RecordKey.withAction_self] at wider
      exact ⟨whole, isHeld, wider⟩
  · rintro ⟨key, isHeld, allows⟩
    by_cases yields : chosen role key ∧ key.Yields action
    swap
    · exact ⟨key, Or.inl ⟨isHeld, yields⟩, allows⟩
    obtain ⟨isChosen, yields⟩ := yields
    obtain rfl := (placed role key isChosen).2
    have fits := coherent.fits_of_holdsKey isHeld
    have component := (low role key isHeld).component
    by_cases whole : key.action = Action.allName
    · -- The member that was asked for is among those that are given out in the place of `all`.
      obtain ⟨member, isMember, same⟩ := List.any_eq_true.1 included
      rw [Action.beq_iff] at same
      have isLeft : member ∈ key.leftActions all action :=
        RecordKey.mem_leftActions.2 ⟨whole, single, isMember, same ▸ apart⟩
      exact ⟨key.withAction member.name,
        Or.inr ⟨key, isChosen, all, isAll, member, isLeft, rfl⟩,
        fits.allows_member registered component isAll isMember resolved same allows⟩
    · have named := fits.name_eq_of_allows registered component whole resolved allows
      rcases yields with isWhole | isWhole | same
      · exact absurd isWhole single
      · exact absurd isWhole whole
      · exact absurd (named.symm.trans same) apart

/-- Revoking an action other than `all` takes nothing else away, as far as it is a member of `all`.
What a role covers by such a member, and may pass on by it, is the same before and after. -/
theorem revoke_spares {settings : Settings} {role grantor : String} {privilege : Privilege}
    {now : Timestamp} {all action : Action} (accepted : settings.catalogue = .ok catalogue)
    (attained : Attained catalogue ledger)
    (revoked : (ledger.revoke catalogue role privilege grantor now).result = .ok next)
    (isAll : catalogue.all privilege.component = .ok all)
    (taken : catalogue.resolve privilege.component privilege.action = .ok action)
    (single : action.name ≠ Action.allName) :
    ∃ held heldNext,
      ledger.privilegesOfRoles catalogue (normalizeAll [role]) = .ok held ∧
      next.privilegesOfRoles catalogue (normalizeAll [role]) = .ok heldNext ∧
      ∀ asked other, catalogue.resolve privilege.component asked.action = .ok other →
        all.includes other = true → other.name ≠ action.name →
        ((∃ found ∈ heldNext, found.covers catalogue.vocabularies asked = true) ↔
          ∃ found ∈ held, found.covers catalogue.vocabularies asked = true) ∧
        ((∃ found ∈ heldNext, found.covers catalogue.vocabularies asked = true ∧
            found.grantOption = some true) ↔
          ∃ found ∈ held, found.covers catalogue.vocabularies asked = true ∧
            found.grantOption = some true) := by
  have registered := Settings.registered_of_catalogue accepted
  have coherent := attained.reachable.coherent registered
  have low := attained.holdsLowered registered
  rcases revoke_refused ledger catalogue role privilege grantor now with
    ⟨reason, refused⟩ | ⟨known, same, path, resolved, encoded⟩
  · rw [refused] at revoked
    cases revoked
  obtain rfl : same = action := Except.ok.inj (resolved.symm.trans taken)
  obtain ⟨after, ended, becomes⟩ :=
    coherent.revoke_becomes registered known resolved encoded grantor now
  rw [ended] at revoked
  obtain rfl : after = next := Except.ok.inj revoked
  obtain ⟨held, isHeld, before⟩ := coherent.privilegesOfRoles (normalizeAll [role])
  obtain ⟨heldNext, isHeldNext, later⟩ :=
    becomes.coherent.privilegesOfRoles (normalizeAll [role])
  refine ⟨held, heldNext, isHeld, isHeldNext, fun asked other isOther included apart => ?_⟩
  have allows : ∀ passing, (∃ found ∈ heldNext,
      found.Allows catalogue.vocabularies asked passing) ↔
        ∃ found ∈ held, found.Allows catalogue.vocabularies asked passing := by
    intro passing
    rw [before, later]
    simp only [mem_normalizeAll_singleton, exists_eq_left, becomes.holdsKey]
    exact low.retained_allows registered coherent isAll single isOther included apart
      (fun _ _ chosen => ⟨chosen.1, component_of_includes chosen.2.2⟩) _ passing
  exact ⟨by simpa [Privilege.Allows] using allows false,
    by simpa [Privilege.Allows] using allows true⟩

/-- A role that may do everything on the shelf is no longer to read, and still may lend. -/
theorem revoke_spares_library :
    ∃ ledger next : Ledger, ∃ held heldNext : List Privilege,
      Settings.library.catalogue = .ok Catalogue.library ∧ Attained Catalogue.library ledger ∧
      (ledger.revoke Catalogue.library "Clerks" (libraryPrivilege "read") "olga" default).result =
        .ok next ∧
      ledger.holdings.elements = [⟨"clerks", 1⟩] ∧ next.holdings.elements = [⟨"clerks", 2⟩] ∧
      ledger.privilegesOfRoles Catalogue.library (normalizeAll ["Clerks"]) = .ok held ∧
      next.privilegesOfRoles Catalogue.library (normalizeAll ["Clerks"]) = .ok heldNext ∧
      ((∃ found ∈ heldNext,
          found.covers Catalogue.library.vocabularies (libraryPrivilege "lend") = true) ↔
        ∃ found ∈ held,
          found.covers Catalogue.library.vocabularies (libraryPrivilege "lend") = true) := by
  let naming : Operation := .createRole "Clerks" default
  let granting : Operation := .grant "Clerks" (libraryPrivilege "all") "olga" default
  let named := naming.apply Catalogue.library empty
  let whole := granting.apply Catalogue.library named.ledger
  have attained : Attained Catalogue.library whole.ledger :=
    .apply (.apply .empty naming trivial) granting ⟨(libraryPrivilege "all").toDraft, rfl⟩
  let revoked := whole.ledger.revoke Catalogue.library "Clerks" (libraryPrivilege "read") "olga"
    default
  have ended : revoked.failure.isNone = true := by decide +kernel
  have done := Edited.result_of_isNone ended
  have isAll : Catalogue.library.all (libraryPrivilege "read").component =
      .ok (.compound "all" [.base "read", .base "lend"]) := rfl
  have taken : Catalogue.library.resolve (libraryPrivilege "read").component
      (libraryPrivilege "read").action = .ok (.base "read") := rfl
  have single : (Action.base "read").name ≠ Action.allName := by decide
  obtain ⟨held, heldNext, isHeld, isHeldNext, spares⟩ :=
    revoke_spares Settings.catalogue_library attained done isAll taken single
  refine ⟨whole.ledger, revoked.ledger, held, heldNext, Settings.catalogue_library, attained, done,
    ?_, ?_, isHeld, isHeldNext, (spares (libraryPrivilege "lend") (.base "lend") rfl ?_ ?_).1⟩
  · decide +kernel
  · decide +kernel
  · decide
  · decide

/-- What `all` does not list goes with the action that is revoked. A role that may do everything on
the shelf, and was granted mending too, may not mend any more when it may no longer read. -/
theorem revoke_takes_unlisted :
    ∃ ledger next : Ledger, ∃ held heldNext : List Privilege,
      Settings.library.catalogue = .ok Catalogue.library ∧ Attained Catalogue.library ledger ∧
      (ledger.revoke Catalogue.library "Clerks" (libraryPrivilege "read") "olga" default).result =
        .ok next ∧
      Catalogue.library.resolve "library" "read" = .ok (.base "read") ∧
      Catalogue.library.resolve "library" "mend" = .ok (.base "mend") ∧
      ledger.privilegesOfRoles Catalogue.library (normalizeAll ["Clerks"]) = .ok held ∧
      next.privilegesOfRoles Catalogue.library (normalizeAll ["Clerks"]) = .ok heldNext ∧
      (∃ found ∈ held,
        found.covers Catalogue.library.vocabularies (libraryPrivilege "mend") = true) ∧
      ¬∃ found ∈ heldNext,
        found.covers Catalogue.library.vocabularies (libraryPrivilege "mend") = true := by
  let naming : Operation := .createRole "Clerks" default
  let granting : Operation := .grant "Clerks" (libraryPrivilege "all") "olga" default
  let mending : Operation := .grant "Clerks" (libraryPrivilege "mend") "olga" default
  let named := naming.apply Catalogue.library empty
  let whole := granting.apply Catalogue.library named.ledger
  let both := mending.apply Catalogue.library whole.ledger
  have attained : Attained Catalogue.library both.ledger :=
    .apply (.apply (.apply .empty naming trivial) granting
      ⟨(libraryPrivilege "all").toDraft, rfl⟩) mending ⟨(libraryPrivilege "mend").toDraft, rfl⟩
  let revoked := both.ledger.revoke Catalogue.library "Clerks" (libraryPrivilege "read") "olga"
    default
  have ended : revoked.failure.isNone = true := by decide +kernel
  refine ⟨both.ledger, revoked.ledger, [libraryPrivilege "all"], [libraryPrivilege "lend"],
    Settings.catalogue_library, attained, Edited.result_of_isNone ended, rfl, rfl, ?_, ?_, ?_, ?_⟩
  · decide +kernel
  · decide +kernel
  · decide +kernel
  · decide +kernel

end Ledger

end Entitlement
