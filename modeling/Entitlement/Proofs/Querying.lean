/-
This file says what the query of a service finds: one privilege for each record of the service that
is at the path or below and that is held by one of the roles that the query is about. These are all
roles when it gives no names at all. Names that no role and no group has are passed over, and a
query all of whose names are passed over is about no role, so it finds nothing.

With names the query looks up what their roles hold, and without names it reads all records. The
second is what all roles hold because no record is left in a committed ledger that nobody holds.
-/

import Entitlement.Proofs.Authorization
import Entitlement.Proofs.Finding
import Entitlement.Proofs.ReadingBack
import Entitlement.Proofs.Reopening

namespace Entitlement

/-! ### Paths that start with others -/

/-- Whether two steps differ at most in how they are spelled: their types in the case of A to Z, and
their names in case. -/
def Step.SameUpToCase (step other : Step) : Prop :=
  Text.sameAsciiCase step.type other.type = true ∧ Text.lower step.name = Text.lower other.name

/-- Whether a path starts with another, up to case. -/
def StartsWith (path start : List Step) : Prop :=
  ∃ leading rest, path = leading ++ rest ∧ List.Forall₂ Step.SameUpToCase start leading

theorem Step.lowered_beq_iff {step other : Step} (low : other.lowered = other) :
    (step.lowered == other) = true ↔ step.SameUpToCase other := by
  have lowName : Text.lower other.name = other.name := congrArg Step.name low
  rw [Step.beq_iff, SameUpToCase, lowName]
  refine and_congr_right fun _ => ⟨?_, fun same => ?_⟩
  · exact Text.eq_of_sameAsciiCase (Text.lower_lower step.name) lowName
  · rw [← same]
    exact Text.sameAsciiCase_refl _

theorem isPrefixOf_lowered_iff {start path : List Step} (low : path.map Step.lowered = path) :
    (start.map Step.lowered).isPrefixOf path = true ↔ StartsWith path start := by
  induction start generalizing path with
  | nil => exact iff_of_true rfl ⟨[], path, rfl, .nil⟩
  | cons step others inductionHypothesis =>
    cases path with
    | nil =>
      refine iff_of_false (by simp) ?_
      rintro ⟨leading, rest, parts, same⟩
      cases same
      cases parts
    | cons first further =>
      rw [List.map_cons, List.cons.injEq] at low
      rw [List.map_cons, List.isPrefixOf_cons_cons, Bool.and_eq_true, Step.lowered_beq_iff low.1,
        inductionHypothesis low.2]
      constructor
      · rintro ⟨same, leading, rest, rfl, others⟩
        exact ⟨first :: leading, rest, rfl, .cons same others⟩
      · rintro ⟨leading, rest, parts, same⟩
        cases same with
        | cons same others =>
          obtain ⟨rfl, rfl⟩ := List.cons.inj parts
          exact ⟨same, _, rest, rfl, others⟩

namespace Ledger

variable {catalogue : Catalogue} {ledger : Ledger} {roles groups : List String}

/-! ### Roles that a query is about -/

/-- Whether a query that gives these roles and groups is about a role: about each that exists when
it gives none, and else about those that it names and those to which a group belongs that it
names. -/
def IsAsked (ledger : Ledger) (roles groups : List String) (role : String) : Prop :=
  ledger.roles.contains role = true ∧ ((roles = [] ∧ groups = []) ∨
    role ∈ roles.map Text.normalize ∨
    ∃ group ∈ groups, ⟨role, Text.normalize group⟩ ∈ ledger.groupLinks)

theorem namedRoles_eq_none : Store.namedRoles ledger roles groups = none ↔
    roles = [] ∧ groups = [] := by
  unfold Store.namedRoles
  rw [← List.isEmpty_iff, ← List.isEmpty_iff, ← Bool.and_eq_true]
  split
  · next none => exact iff_of_true rfl none
  · next some => exact iff_of_false nofun some

/-- The roles of a query that gives names are those that it is about. -/
theorem Coherent.mem_namedRoles (coherent : ledger.Coherent catalogue)
    {named : OrderedSet String} (isNamed : Store.namedRoles ledger roles groups = some named)
    (role : String) : role ∈ named ↔ ledger.IsAsked roles groups role := by
  have given : ¬(roles = [] ∧ groups = []) := by
    intro none
    rw [namedRoles_eq_none.2 none] at isNamed
    cases isNamed
  unfold Store.namedRoles at isNamed
  split at isNamed
  · cases isNamed
  obtain rfl := Option.some.inj isNamed
  rw [OrderedSet.mem_union, OrderedSet.mem_filter, mem_normalizeAll, mem_rolesOfGroups, IsAsked,
    or_iff_right given, and_or_left]
  refine or_congr ?_ ?_
  · rw [and_comm]
    refine and_congr_left fun member => ?_
    obtain ⟨name, -, rfl⟩ := List.mem_map.1 member
    rw [hasRole, Text.normalize_normalize]
  · constructor
    · rintro ⟨_, isGroup, isLink⟩
      obtain ⟨group, member, rfl⟩ := List.mem_map.1 (mem_normalizeAll.1 isGroup)
      exact ⟨(coherent.link _ isLink).1, group, member, isLink⟩
    · rintro ⟨-, group, member, isLink⟩
      exact ⟨_, mem_normalizeAll.2 (List.mem_map_of_mem member), isLink⟩

/-- What a query looks through is what the roles hold that it is about. -/
theorem Coherent.mem_candidates_namedRoles (coherent : ledger.Coherent catalogue)
    (pruned : ledger.Pruned) (entry : Nat × Record) :
    entry ∈ ledger.candidates (Store.namedRoles ledger roles groups) ↔
      ledger.record? entry.1 = some entry.2 ∧
        ∃ role, ledger.IsAsked roles groups role ∧ ⟨role, entry.1⟩ ∈ ledger.holdings := by
  cases isNamed : Store.namedRoles ledger roles groups with
  | none =>
    have all := namedRoles_eq_none.1 isNamed
    have stored : entry ∈ ledger.candidates none ↔ ledger.record? entry.1 = some entry.2 :=
      OrderedMap.get?_eq_some_iff_mem.symm
    rw [stored]
    refine (and_iff_left_of_imp fun found => ?_).symm
    obtain ⟨role, isHolding⟩ := pruned _ _ found
    exact ⟨role, ⟨(coherent.holding _ isHolding).1, Or.inl all⟩, isHolding⟩
  | some named =>
    rw [mem_candidates]
    simp only [coherent.mem_namedRoles isNamed]

theorem candidates_of_isEmpty {named : OrderedSet String} (empty : named.isEmpty = true) :
    ledger.candidates (some named) = [] := by
  refine List.eq_nil_iff_forall_not_mem.2 fun entry member => ?_
  obtain ⟨-, role, isRole, -⟩ := mem_candidates.1 member
  rw [OrderedSet.mem_def, List.isEmpty_iff.1 empty] at isRole
  cases isRole

/-! ### What is found -/

/-- Records of a coherent ledger in lower case are read back as one privilege each. -/
theorem Coherent.exists_ofRecords_iff (coherent : ledger.Coherent catalogue)
    (registered : catalogue.Registered) (keyed : ledger.Keyed RecordKey.Normal)
    {entries : List (Nat × Record)}
    (stored : ∀ entry ∈ entries, ledger.record? entry.1 = some entry.2) :
    ∃ found, catalogue.ofRecords (entries.map Prod.snd) = .ok found ∧
      (found.Pairwise fun first second => (second == first) = false) ∧
      ∀ privilege, privilege ∈ found ↔
        ∃ entry ∈ entries, catalogue.ofKey entry.2.key = .ok privilege := by
  obtain ⟨privileges, read, isMember⟩ := coherent.exists_ofRecords stored
  -- Equal privileges have one key, and one key is read back as one privilege.
  have told : ∀ privilege ∈ privileges, ∀ other ∈ privileges,
      (privilege == other) = true → privilege = other := by
    intro privilege member other otherMember equal
    obtain ⟨entry, isEntry, isRead⟩ := (isMember privilege).1 member
    obtain ⟨second, isSecond, otherRead⟩ := (isMember other).1 otherMember
    rw [coherent.key_eq_of_beq registered keyed (stored entry isEntry) (stored second isSecond)
      isRead otherRead equal] at isRead
    exact Except.ok.inj (isRead.symm.trans otherRead)
  exact ⟨_, read, pairwise_eraseDups privileges,
    fun privilege => (mem_eraseDups_iff told privilege).trans (isMember privilege)⟩

/-- Whether a query of a service is about a record: the record is of the service, at the path or
below, and held by a role that the query is about. -/
structure IsQueried (catalogue : Catalogue) (ledger : Ledger) (component service : String)
    (roles groups : List String) (steps : List Step) (number : Nat) (record : Record) : Prop where
  stored : ledger.record? number = some record
  component : record.key.component = Text.normalize component
  service : record.key.service = Text.normalize service
  path : ∃ path, catalogue.decode record.key.component record.key.path = .ok path ∧
    StartsWith path steps
  held : ∃ role, ledger.IsAsked roles groups role ∧ ⟨role, number⟩ ∈ ledger.holdings

/-- The service includes a key in lower case if it is of the service and its path starts with the
one that is given. -/
theorem includes_ofService_iff {key : RecordKey} (low : key.Lowered) {component service : String}
    {steps : List Step} :
    (Target.ofService component service steps).includes catalogue key = .ok true ↔
      (key.component = Text.normalize component ∧ key.service = Text.normalize service) ∧
        ∃ path, catalogue.decode key.component key.path = .ok path ∧ StartsWith path steps := by
  rw [Catalogue.includes_eq_ok_true]
  refine and_congr ?_ (exists_congr fun path => and_congr_right fun decoded => ?_)
  · simp [Target.agrees, Target.ofService, Text.normalize]
  · exact isPrefixOf_lowered_iff (Catalogue.map_lowered_of_decode low.names decoded)

/-- The query of a service finds the privileges of the records that it is about. -/
theorem Coherent.privilegesOfService_iff (coherent : ledger.Coherent catalogue)
    (registered : catalogue.Registered) (keyed : ledger.Keyed RecordKey.Normal)
    (pruned : ledger.Pruned) (component service : String) (roles groups : List String)
    (steps : List Step) :
    ∃ found, ledger.privilegesOfService catalogue component service
        (Store.namedRoles ledger roles groups) steps = .ok found ∧
      (found.Pairwise fun first second => (second == first) = false) ∧
      ∀ privilege, privilege ∈ found ↔
        ∃ number record, ledger.IsQueried catalogue component service roles groups steps number
            record ∧ catalogue.ofKey record.key = .ok privilege := by
  obtain ⟨entries, included⟩ := coherent.exists_included
    (Target.ofService component service steps) (Store.namedRoles ledger roles groups)
  have isEntry : ∀ entry, entry ∈ entries ↔ ledger.IsQueried catalogue component service roles
      groups steps entry.1 entry.2 := by
    intro entry
    rw [mem_filterM_eq_ok included, coherent.mem_candidates_namedRoles pruned]
    constructor
    · rintro ⟨⟨stored, held⟩, includes⟩
      obtain ⟨⟨component, service⟩, path⟩ :=
        (includes_ofService_iff (keyed _ _ stored).toLowered).1 includes
      exact ⟨stored, component, service, path, held⟩
    · rintro ⟨stored, component, service, path, held⟩
      exact ⟨⟨stored, held⟩, (includes_ofService_iff (keyed _ _ stored).toLowered).2
        ⟨⟨component, service⟩, path⟩⟩
  obtain ⟨found, read, distinct, isFound⟩ := coherent.exists_ofRecords_iff registered keyed
    fun entry member => ((isEntry entry).1 member).stored
  refine ⟨found, bind_eq_ok.2 ⟨entries, included, read⟩, distinct, fun privilege => ?_⟩
  simp only [isFound, isEntry, Prod.exists]

end Ledger

namespace Store

/-! ### The call of a store -/

/-- The store asks its ledger for the roles that are named, also when there are none of them. -/
theorem privilegesOfService_of_free {store : Store} (free : store.vault.hasWriter = false)
    (component service : String) (roles groups : List String) (steps : List Step) :
    store.privilegesOfService component service roles groups steps =
      store.vault.committed.privilegesOfService store.catalogue component service
        (namedRoles store.vault.committed roles groups) steps := by
  rw [privilegesOfService, ask_of_free free]
  cases namedRoles store.vault.committed roles groups with
  | none => rfl
  | some named =>
    by_cases empty : named.isEmpty = true
    · dsimp only
      rw [if_pos empty, Ledger.privilegesOfService, Ledger.included,
        Ledger.candidates_of_isEmpty empty]
      rfl
    · exact if_neg empty

/-- In every run of a store that begins with an empty ledger, whenever no writing transaction runs,
the query of a service succeeds. It finds the privileges of the records that it is about, each of
them once, and so it finds nothing when it is about no role. -/
theorem query_finds {start store : Store} {turns : List Turn}
    (registered : start.catalogue.Registered) (fresh : start.vault.committed = Ledger.empty)
    (run : Run Vault.KeepsCommitted start turns store) (free : store.vault.hasWriter = false)
    (component service : String) (roles groups : List String) (steps : List Step) :
    ∃ found, store.privilegesOfService component service roles groups steps = .ok found ∧
      (found.Pairwise fun first second => (second == first) = false) ∧
      (∀ privilege, privilege ∈ found ↔
        ∃ number record, store.vault.committed.IsQueried store.catalogue component service roles
            groups steps number record ∧ store.catalogue.ofKey record.key = .ok privilege) ∧
      ((∀ role, ¬store.vault.committed.IsAsked roles groups role) → found = []) := by
  obtain ⟨coherent, pruned⟩ := run_coherent registered fresh run
  have attained : store.vault.committed.Attained start.catalogue :=
    run.attained (fresh ▸ .empty)
  have keyed := attained.keyed registered
  rw [← run.settings.1] at registered coherent
  obtain ⟨found, isFound, distinct, isMember⟩ := coherent.privilegesOfService_iff registered keyed
    pruned component service roles groups steps
  refine ⟨found, (privilegesOfService_of_free free ..).trans isFound, distinct, isMember,
    fun none => List.eq_nil_iff_forall_not_mem.2 fun privilege member => ?_⟩
  obtain ⟨number, record, queried, -⟩ := (isMember privilege).1 member
  obtain ⟨role, asked, -⟩ := queried.held
  exact none role asked

/-- Clerks may read a book and menders a shelf. A query in other letters that names a group of the
clerks and a role that is not there finds the book. One that names only this role finds nothing,
though both are found when no names are given. -/
theorem query_finds_library :
    ∃ (turns : List Turn) (final : Store) (found : List Privilege),
      Run Vault.KeepsCommitted libraryStore turns final ∧ final.vault.hasWriter = false ∧
      final.privilegesOfService " Library" "LENDING " ["nobody"] ["STAFF"] [⟨"Shelf", "A"⟩] =
        .ok found ∧
      found = [libraryReading [⟨"shelf", "a"⟩, ⟨"book", "b"⟩]] ∧
      (∀ privilege ∈ found, ∃ number record, final.vault.committed.IsQueried final.catalogue
          " Library" "LENDING " ["nobody"] ["STAFF"] [⟨"Shelf", "A"⟩] number record ∧
        final.catalogue.ofKey record.key = .ok privilege) ∧
      final.privilegesOfService " Library" "LENDING " ["nobody"] [] [] = .ok [] ∧
      final.privilegesOfService " Library" "LENDING " [] [] [] =
        .ok [libraryReading [⟨"shelf", "a"⟩, ⟨"book", "b"⟩], libraryReading [⟨"shelf", "c"⟩]] := by
  let occasion : Occasion := ⟨default, default⟩
  let reading := libraryReading [⟨"shelf", "a"⟩, ⟨"book", "b"⟩]
  let other := libraryReading [⟨"shelf", "c"⟩]
  let book : BuiltPrivilege := ⟨reading, reading.toDraft, by decide +kernel⟩
  let shelf : BuiltPrivilege := ⟨other, other.toDraft, by decide +kernel⟩
  let first := libraryStore.turn (.mutation (.createRole "Clerks") "olga" occasion)
  let second := first.after.turn (.mutation (.createRole "Menders") "olga" occasion)
  let third := second.after.turn (.mutation (.addGroups "Clerks" ["Staff"]) "olga" occasion)
  let fourth := third.after.turn (.mutation (.grant "Clerks" book) "olga" occasion)
  let fifth := fourth.after.turn (.mutation (.grant "Menders" shelf) "olga" occasion)
  have run : Run Vault.KeepsCommitted libraryStore [first, second, third, fourth, fifth]
      fifth.after :=
    .consSame _ (.consSame _ (.consSame _ (.consSame _ (.consSame _ (.nil _)))))
  have free : fifth.after.vault.hasWriter = false := by decide +kernel
  obtain ⟨found, isFound, -, isMember, -⟩ := query_finds Catalogue.registered_library rfl run free
    " Library" "LENDING " ["nobody"] ["STAFF"] [⟨"Shelf", "A"⟩]
  obtain ⟨none, isNone, -, -, nothing⟩ := query_finds Catalogue.registered_library rfl run free
    " Library" "LENDING " ["nobody"] [] []
  have single : fifth.after.privilegesOfService " Library" "LENDING " ["nobody"] ["STAFF"]
      [⟨"Shelf", "A"⟩] = .ok [reading] := by decide +kernel
  have unknown : fifth.after.vault.committed.roles.contains (Text.normalize "nobody") = false := by
    decide +kernel
  have isNothing : none = [] := by
    refine nothing fun role asked => ?_
    obtain ⟨known, ⟨noRoles, -⟩ | isRole | ⟨_, isGroup, -⟩⟩ := asked
    · cases noRoles
    · obtain rfl := List.mem_singleton.1 isRole
      rw [unknown] at known
      cases known
    · cases isGroup
  rw [isNothing] at isNone
  exact ⟨_, _, found, run, free, isFound, Except.ok.inj (isFound.symm.trans single),
    fun privilege => (isMember privilege).1, isNone, by decide +kernel⟩

end Store

end Entitlement
