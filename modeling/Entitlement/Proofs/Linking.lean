/-
This file proves that the groups of a role are what the history of its links says. Of the calls
that succeeded, those count that added the group to the role, removed it from the role or dropped
the role, under any spelling of the names; the group belongs to the role if there is such a call
and the last of them added it. No other call has any bearing on it, so a role that is made anew has
neither groups nor privileges.
-/

import Entitlement.Proofs.Authorization
import Entitlement.Proofs.Reopening

namespace Entitlement

/-! ### Which calls bear on a link -/

namespace Mutation

/-- What the change does to the link of a role with a group: it makes the link, it takes the link
away, or it has no bearing on it. -/
def bearing? (role group : String) : Mutation → Option Bool
  | addGroups other groups =>
    if Text.normalize other = Text.normalize role ∧
        Text.normalize group ∈ groups.map Text.normalize then some true
    else none
  | removeGroups other groups =>
    if Text.normalize other = Text.normalize role ∧
        Text.normalize group ∈ groups.map Text.normalize then some false
    else none
  | dropRole other => if Text.normalize other = Text.normalize role then some false else none
  | _ => none

/-- Whether the change is about privileges and not about roles and groups. -/
def isOfPrivileges : Mutation → Bool
  | grant .. | revoke .. | drop _ | rename .. => true
  | _ => false

end Mutation

namespace Turn

/-- What the call did to the link of a role with a group. A call that made no commit did
nothing. -/
def bearing? (role group : String) (turn : Turn) : Option Bool :=
  match turn.call, turn.commit? with
  | .mutation mutation _ _, some _ => mutation.bearing? role group
  | _, _ => none

/-- What the last of the calls did that had any bearing on the link. -/
def lastBearing? (role group : String) (turns : List Turn) : Option Bool :=
  (turns.filterMap (bearing? role group)).getLast?

/-- Whether the call was not a change of roles and groups that was made: it failed, or it was a
query, or it was about privileges. -/
def IsAside (turn : Turn) : Prop :=
  turn.commit? = none ∨ ∃ mutation requestor occasion,
    turn.call = .mutation mutation requestor occasion ∧ mutation.isOfPrivileges = true

theorem lastBearing?_cons (role group : String) (turn : Turn) (turns : List Turn) :
    lastBearing? role group (turn :: turns) =
      (lastBearing? role group turns).or (turn.bearing? role group) := by
  unfold lastBearing?
  cases bears : turn.bearing? role group with
  | none => rw [List.filterMap_cons_none bears, Option.or_none]
  | some made =>
    rw [List.filterMap_cons_some bears, List.getLast?_cons]
    cases (turns.filterMap (bearing? role group)).getLast? <;> rfl

end Turn

/-! ### What a call does to the links -/

namespace Ledger

variable {catalogue : Catalogue} {ledger next : Ledger}

/-- Whether the group belongs to the role. -/
def Links (ledger : Ledger) (role group : String) : Prop :=
  ⟨Text.normalize role, Text.normalize group⟩ ∈ ledger.groupLinks

theorem normalizeAll_elements (names : List String) :
    normalizeAll (normalizeAll names).elements = normalizeAll names := by
  refine OrderedSet.ext_mem fun name => ?_
  rw [mem_normalizeAll, mem_normalizeAll, List.mem_map]
  simp only [← OrderedSet.mem_def, mem_normalizeAll, List.mem_map]
  constructor
  · rintro ⟨_, ⟨given, member, rfl⟩, rfl⟩
    exact ⟨given, member, (Text.normalize_normalize given).symm⟩
  · rintro ⟨given, member, rfl⟩
    exact ⟨_, ⟨given, member, rfl⟩, Text.normalize_normalize given⟩

theorem mem_groupsOfRoles {roles : List String} {group : String} :
    group ∈ ledger.groupsOfRoles roles ↔
      ∃ role ∈ normalizeAll roles, ⟨role, group⟩ ∈ ledger.groupLinks := by
  unfold groupsOfRoles
  dsimp only
  rw [OrderedSet.mem_ofList, List.mem_map]
  constructor
  · rintro ⟨link, member, rfl⟩
    obtain ⟨isLink, isRole⟩ := List.mem_filter.1 member
    exact ⟨link.role, OrderedSet.contains_iff.1 isRole, isLink⟩
  · rintro ⟨role, isRole, isLink⟩
    exact ⟨⟨role, group⟩, List.mem_filter.2 ⟨isLink, OrderedSet.contains_iff.2 isRole⟩, rfl⟩

/-- Both ways of asking tell of the same links. -/
theorem links_iff_asked (ledger : Ledger) (role group : String) :
    (Text.normalize group ∈ ledger.groupsOfRoles [role] ↔ ledger.Links role group) ∧
      (Text.normalize role ∈ ledger.rolesOfGroups [group] ↔ ledger.Links role group) := by
  rw [mem_groupsOfRoles, mem_rolesOfGroups]
  simp only [mem_normalizeAll_singleton, exists_eq_left]
  exact ⟨Iff.rfl, Iff.rfl⟩

theorem groupLinks_createRole {role : String} {now : Timestamp}
    (created : ledger.createRole role now = .ok next) :
    next.groupLinks = ledger.groupLinks ∧ next.holdings = ledger.holdings ∧
      ledger.roles.contains (Text.normalize role) = false := by
  unfold createRole at created
  dsimp only at created
  split at created
  · cases created
  split at created
  · cases created
  next unknown =>
  obtain rfl := Except.ok.inj created
  exact ⟨rfl, rfl, Bool.eq_false_iff.2 unknown⟩

theorem mem_groupLinks_dropRole {role : String} (dropped : ledger.dropRole role = .ok next)
    (link : GroupLink) :
    link ∈ next.groupLinks ↔ link ∈ ledger.groupLinks ∧ link.role ≠ Text.normalize role := by
  obtain ⟨name, required, dropped⟩ := bind_eq_ok.1 dropped
  obtain ⟨-, rfl⟩ := requireRole_eq_ok.1 required
  obtain rfl := pure_eq_ok.1 dropped
  exact OrderedSet.mem_filter.trans (and_congr_right fun _ => bne_iff_ne)

theorem mem_groupLinks_foldl_linkGroup (role : String) (now : Timestamp) (groups : List String)
    (link : GroupLink) :
    link ∈ (groups.foldl (linkGroup role now) ledger).groupLinks ↔
      (link.role = role ∧ link.group ∈ groups) ∨ link ∈ ledger.groupLinks := by
  induction groups generalizing ledger with
  | nil => simp
  | cons group rest inductionHypothesis =>
    have first : link ∈ (linkGroup role now ledger group).groupLinks ↔
        link = ⟨role, group⟩ ∨ link ∈ ledger.groupLinks := OrderedSet.mem_insert
    have same : link = ⟨role, group⟩ ↔ link.role = role ∧ link.group = group := by
      cases link
      simp
    rw [List.foldl_cons, inductionHypothesis, first, same, List.mem_cons]
    tauto

theorem mem_groupLinks_addGroups {role : String} {groups : List String} {now : Timestamp}
    (added : ledger.addGroups role groups now = .ok next) (link : GroupLink) :
    link ∈ next.groupLinks ↔
      (link.role = Text.normalize role ∧ link.group ∈ normalizeAll groups) ∨
        link ∈ ledger.groupLinks := by
  obtain ⟨name, required, added⟩ := bind_eq_ok.1 added
  obtain ⟨-, rfl⟩ := requireRole_eq_ok.1 required
  obtain rfl := pure_eq_ok.1 added
  exact mem_groupLinks_foldl_linkGroup ..

theorem mem_groupLinks_removeGroups {role : String} {groups : List String}
    (removed : ledger.removeGroups role groups = .ok next) (link : GroupLink) :
    link ∈ next.groupLinks ↔ link ∈ ledger.groupLinks ∧
      ¬(link.role = Text.normalize role ∧ link.group ∈ normalizeAll groups) := by
  obtain ⟨name, required, removed⟩ := bind_eq_ok.1 removed
  obtain ⟨-, rfl⟩ := requireRole_eq_ok.1 required
  dsimp only at removed
  split at removed
  · cases removed
  · obtain rfl := pure_eq_ok.1 removed
    refine OrderedSet.mem_filter.trans (and_congr_right fun _ => ?_)
    rw [Bool.not_eq_true', ← Bool.not_eq_true, Bool.and_eq_true, beq_iff_eq,
      OrderedSet.contains_iff]

/-- A role that does not exist has no links and holds nothing. -/
theorem Coherent.bare (coherent : ledger.Coherent catalogue) {role : String}
    (unknown : ledger.roles.contains role = false) :
    (∀ group, (⟨role, group⟩ : GroupLink) ∉ ledger.groupLinks) ∧
      ∀ number, (⟨role, number⟩ : Holding) ∉ ledger.holdings := by
  constructor
  · intro group member
    have known := (coherent.link _ member).1
    rw [unknown] at known
    cases known
  · intro number member
    have known := (coherent.holding _ member).1
    rw [unknown] at known
    cases known

/-- A role without links and holdings has no groups and no privileges. -/
theorem asked_of_bare (ledger : Ledger) (catalogue : Catalogue) {role : String}
    (links : ∀ group, (⟨Text.normalize role, group⟩ : GroupLink) ∉ ledger.groupLinks)
    (holdings : ∀ number, (⟨Text.normalize role, number⟩ : Holding) ∉ ledger.holdings) :
    ledger.groupsOfRoles [role] = OrderedSet.empty ∧
      ledger.privilegesOfRoles catalogue (normalizeAll [role]) = .ok [] := by
  have noRecords : (ledger.recordsOfRoles (normalizeAll [role])).elements = [] := by
    refine List.eq_nil_iff_forall_not_mem.2 fun number member => ?_
    obtain ⟨other, isOther, held⟩ := mem_recordsOfRoles.1 member
    rw [mem_normalizeAll_singleton.1 isOther] at held
    exact holdings number held
  constructor
  · refine OrderedSet.ext_mem fun group => iff_of_false ?_ (OrderedSet.not_mem_empty group)
    rw [mem_groupsOfRoles]
    rintro ⟨other, isOther, isLink⟩
    rw [mem_normalizeAll_singleton.1 isOther] at isLink
    exact links group isLink
  · rw [privilegesOfRoles, candidates, noRecords]
    rfl

end Ledger

namespace Mutation

variable {store : Store} {requestor : String} {now : Timestamp} {ledger next : Ledger}

theorem groupLinks_of_isOfPrivileges {mutation : Mutation}
    (coherent : ledger.Coherent store.catalogue) (registered : store.catalogue.Registered)
    (about : mutation.isOfPrivileges = true)
    (edited : mutation.edit store requestor now ledger = .ok next) :
    next.groupLinks = ledger.groupLinks := by
  rw [← Edited.result_eq_ok (apply_operation edited)]
  cases mutation with
  | grant => exact ((coherent.deeds_grant registered ..).coherent_grows coherent).2.groupLinks
  | revoke => exact ((coherent.deeds_revoke registered ..).coherent_grows coherent).2.groupLinks
  | drop => exact ((coherent.deeds_drop registered ..).coherent_grows coherent).2.groupLinks
  | rename => exact ((coherent.deeds_rename registered ..).coherent_grows coherent).2.groupLinks
  | _ => cases about

/-- A change that is made does to a link what its bearing says. -/
theorem links_edit {mutation : Mutation} (coherent : ledger.Coherent store.catalogue)
    (registered : store.catalogue.Registered)
    (edited : mutation.edit store requestor now ledger = .ok next) (role group : String) :
    next.Links role group ↔
      (mutation.bearing? role group).elim (ledger.Links role group) (· = true) := by
  unfold Ledger.Links
  cases about : mutation.isOfPrivileges with
  | true =>
    rw [groupLinks_of_isOfPrivileges coherent registered about edited]
    cases mutation with
    | grant | revoke | drop | rename => exact Iff.rfl
    | _ => cases about
  | false =>
    cases mutation with
    | createRole other =>
      have created : ledger.createRole (Text.normalize other) now = .ok next := edited
      rw [(Ledger.groupLinks_createRole created).1]
      exact Iff.rfl
    | dropRole other =>
      have dropped : ledger.dropRole (Text.normalize other) = .ok next := edited
      rw [Ledger.mem_groupLinks_dropRole dropped, bearing?, Text.normalize_normalize]
      by_cases same : Text.normalize other = Text.normalize role
      · simp [same]
      · simp [same, Ne.symm same]
    | addGroups other groups =>
      have added : ledger.addGroups (Text.normalize other) (normalizeAll groups).elements now =
        .ok next := edited
      rw [Ledger.mem_groupLinks_addGroups added, bearing?, Text.normalize_normalize,
        Ledger.normalizeAll_elements, Ledger.mem_normalizeAll, eq_comm]
      split
      · next both => simp [both]
      · next apart => simp only [apart, false_or, Option.elim_none]
    | removeGroups other groups =>
      have removed : ledger.removeGroups (Text.normalize other) (normalizeAll groups).elements =
        .ok next := edited
      rw [Ledger.mem_groupLinks_removeGroups removed, bearing?, Text.normalize_normalize,
        Ledger.normalizeAll_elements, Ledger.mem_normalizeAll, eq_comm]
      split
      · next both => simp [both]
      · next apart => simp only [apart, not_false_eq_true, and_true, Option.elim_none]
    | grant | revoke | drop | rename => cases about

end Mutation

/-! ### Whole runs -/

/-- A call in a store with a reachable ledger leads to another one, with the same catalogue. -/
theorem Store.reachable_turn (store : Store) (registered : store.catalogue.Registered)
    (reached : store.vault.committed.Reachable store.catalogue) (call : Call) :
    (store.turn call).after.catalogue.Registered ∧
      (store.turn call).after.vault.committed.Reachable (store.turn call).after.catalogue := by
  obtain ⟨catalogue, ⟨-, kept⟩ | ⟨mutation, _, requestor, occasion, next, -, done, saved⟩⟩ :=
    store.committed_turn call
  · rw [catalogue, kept]
    exact ⟨registered, reached⟩
  · rw [catalogue, saved, ← Edited.result_eq_ok done]
    exact ⟨registered, (reached.apply _).apply .prune⟩

namespace Store

variable (store : Store) (coherent : store.vault.committed.Coherent store.catalogue)
  (registered : store.catalogue.Registered)

include coherent registered

theorem links_turn (call : Call) (role group : String) :
    (store.turn call).after.vault.committed.Links role group ↔
      ((store.turn call).bearing? role group).elim (store.vault.committed.Links role group)
        (· = true) := by
  cases call with
  | query query => exact Iff.rfl
  | mutation mutation requestor occasion =>
    have result := store.performed mutation requestor occasion
    simp only [Store.turn]
    generalize mutation.perform store requestor occasion = outcome at result
    cases result with
    | refused vault reason kept =>
      show vault.committed.Links role group ↔ store.vault.committed.Links role group
      rw [kept]
    | committed vault ledger edited saved =>
      show vault.committed.Links role group ↔
        (mutation.bearing? role group).elim (store.vault.committed.Links role group) (· = true)
      rw [saved]
      exact Mutation.links_edit coherent registered edited role group

theorem groupLinks_turn_of_isAside {call : Call} (aside : (store.turn call).IsAside) :
    (store.turn call).after.vault.committed.groupLinks =
      (store.turn call).before.vault.committed.groupLinks := by
  cases call with
  | query query => rfl
  | mutation mutation requestor occasion =>
    have result := store.performed mutation requestor occasion
    simp only [Store.turn] at aside ⊢
    generalize mutation.perform store requestor occasion = outcome at result aside
    cases result with
    | refused vault reason kept => exact congrArg Ledger.groupLinks kept
    | committed vault ledger edited saved =>
      rcases aside with none | ⟨_, _, _, same, about⟩
      · cases none
      · cases same
        have kept : vault.committed.groupLinks = ledger.groupLinks := by
          rw [saved]
          rfl
        exact kept.trans (Mutation.groupLinks_of_isOfPrivileges coherent registered about edited)

omit registered in
/-- A role that was just made has no groups and no privileges. -/
theorem bare_of_created {role requestor : String} {occasion : Occasion}
    (made : (store.turn (.mutation (.createRole role) requestor occasion)).commit?.isSome = true)
    {after : Store}
    (isAfter : after = (store.turn (.mutation (.createRole role) requestor occasion)).after)
    (free : after.vault.hasWriter = false) :
    after.groupsOfRoles [role] = .ok OrderedSet.empty ∧
      after.privilegesOfRoles [role] = .ok [] := by
  have result := store.performed (.createRole role) requestor occasion
  simp only [Store.turn] at made isAfter
  generalize (Mutation.createRole role).perform store requestor occasion = outcome
    at result made isAfter
  cases result with
  | refused vault reason kept => cases made
  | committed vault ledger edited saved =>
    have created : store.vault.committed.createRole (Text.normalize role) occasion.now =
      .ok ledger := edited
    have isSaved : after.vault.committed = ledger.prune := isAfter ▸ saved
    obtain ⟨links, holdings, unknown⟩ := Ledger.groupLinks_createRole created
    rw [Text.normalize_normalize] at unknown
    obtain ⟨noLinks, noHoldings⟩ := coherent.bare unknown
    rw [← links] at noLinks
    rw [← holdings] at noHoldings
    have asked := ledger.prune.asked_of_bare after.catalogue noLinks noHoldings
    rw [← isSaved] at asked
    constructor
    · exact (ask_of_free free _).trans (congrArg Except.ok asked.1)
    · exact (ask_of_free free _).trans asked.2

end Store

/-- What holds of every call in a store with a coherent ledger, holds of all turns of a run. -/
theorem Run.forall_turn {property : Turn → Prop} {store final : Store} {turns : List Turn}
    (run : Run Vault.KeepsCommitted store turns final) (registered : store.catalogue.Registered)
    (reached : store.vault.committed.Reachable store.catalogue)
    (each : ∀ (current : Store) (call : Call), current.catalogue.Registered →
      current.vault.committed.Coherent current.catalogue → property (current.turn call)) :
    ∀ turn ∈ turns, property turn := by
  induction run with
  | nil => exact fun _ member => absurd member List.not_mem_nil
  | @cons store final turns vault call moved _ inductionHypothesis =>
    rw [← show vault.committed = store.vault.committed from moved] at reached
    let current : Store := { store with vault := vault }
    have here := each current call registered (reached.coherent registered)
    obtain ⟨nextRegistered, nextReached⟩ := current.reachable_turn registered reached call
    exact List.forall_mem_cons.2 ⟨here, inductionHypothesis nextRegistered nextReached⟩

/-- The links at the end of a run are those that the last calls with a bearing on them made, and
the links that were there before and that no call had a bearing on. -/
theorem Run.links_iff {store final : Store} {turns : List Turn}
    (run : Run Vault.KeepsCommitted store turns final) (registered : store.catalogue.Registered)
    (reached : store.vault.committed.Reachable store.catalogue) (role group : String) :
    final.vault.committed.Links role group ↔
      (Turn.lastBearing? role group turns).elim (store.vault.committed.Links role group)
        (· = true) := by
  induction run with
  | nil => exact Iff.rfl
  | @cons store final turns vault call moved _ inductionHypothesis =>
    rw [← show vault.committed = store.vault.committed from moved] at reached ⊢
    let current : Store := { store with vault := vault }
    have step := current.links_turn (reached.coherent registered) registered call role group
    obtain ⟨nextRegistered, nextReached⟩ := current.reachable_turn registered reached call
    rw [inductionHypothesis nextRegistered nextReached, Turn.lastBearing?_cons]
    cases Turn.lastBearing? role group turns with
    | none => exact step
    | some made => exact Iff.rfl

/-- A turn that deals with links as it should. Unless it changes roles and groups, it leaves all
links; and a role that it makes has no groups and no privileges as soon as it can be asked for. -/
structure Turn.HandlesLinks (turn : Turn) : Prop where
  aside : turn.IsAside →
    turn.after.vault.committed.groupLinks = turn.before.vault.committed.groupLinks
  bare : ∀ role requestor occasion, turn.call = .mutation (.createRole role) requestor occasion →
    turn.commit?.isSome = true → turn.after.vault.hasWriter = false →
    turn.after.groupsOfRoles [role] = .ok OrderedSet.empty ∧
      turn.after.privilegesOfRoles [role] = .ok []

/-- In every run of a store that begins with an empty ledger, a group is among those of a role, and
the role among those of the group, just if one of the changes that were made has a bearing on the
two and the last one that has links them. Calls that fail and changes of privileges leave all links
as they are, and whenever a role is made it has no groups and no privileges. -/
theorem run_links {store final : Store} {turns : List Turn}
    (registered : store.catalogue.Registered) (fresh : store.vault.committed = Ledger.empty)
    (run : Run Vault.KeepsCommitted store turns final) :
    (final.vault.hasWriter = false → ∀ role group, ∃ groups roles,
      final.groupsOfRoles [role] = .ok groups ∧ final.rolesOfGroups [group] = .ok roles ∧
        (Text.normalize group ∈ groups ↔ Turn.lastBearing? role group turns = some true) ∧
        (Text.normalize role ∈ roles ↔ Turn.lastBearing? role group turns = some true)) ∧
      ∀ turn ∈ turns, turn.HandlesLinks := by
  have reached : store.vault.committed.Reachable store.catalogue := by
    rw [fresh]
    exact .empty
  constructor
  · intro free role group
    have links : final.vault.committed.Links role group ↔
        Turn.lastBearing? role group turns = some true := by
      rw [run.links_iff registered reached, fresh]
      cases Turn.lastBearing? role group turns with
      | none => exact iff_of_false (OrderedSet.not_mem_empty _) (by simp)
      | some made => exact (Option.some.injEq made true).to_iff.symm
    obtain ⟨ofRole, ofGroup⟩ := final.vault.committed.links_iff_asked role group
    exact ⟨_, _, Store.ask_of_free free _, Store.ask_of_free free _, ofRole.trans links,
      ofGroup.trans links⟩
  · refine run.forall_turn registered reached fun current call isRegistered coherent => ?_
    refine ⟨current.groupLinks_turn_of_isAside coherent isRegistered, ?_⟩
    intro role requestor occasion same made free
    cases call with
    | query => cases same
    | mutation =>
      cases same
      exact current.bare_of_created coherent made rfl free

/-- A removal that names a group which does not exist removes nothing, and a role that was dropped
and made again has only the groups that it was given since. -/
theorem run_links_library :
    ∃ (turns : List Turn) (final : Store),
      Run Vault.KeepsCommitted libraryStore turns final ∧
        turns.map (fun turn => turn.commit?.isSome) =
          [true, true, false, true, true, true, true] ∧
        Turn.lastBearing? "clerks" "staff" (turns.take 4) = some true ∧
        (∃ groups roles, final.groupsOfRoles ["CLERKS"] = .ok groups ∧
          final.rolesOfGroups [" Night"] = .ok roles ∧
          Text.normalize " Night" ∈ groups ∧ Text.normalize "CLERKS" ∈ roles) ∧
        (∃ groups, final.groupsOfRoles ["clerks"] = .ok groups ∧
          Text.normalize "staff" ∉ groups) ∧
        ∀ turn ∈ turns, turn.HandlesLinks := by
  let occasion : Occasion := ⟨default, default⟩
  let read : BuiltPrivilege := ⟨libraryPrivilege "read", (libraryPrivilege "read").toDraft, rfl⟩
  let named := libraryStore.turn (.mutation (.createRole " Clerks") "olga" occasion)
  let linked := named.after.turn
    (.mutation (.addGroups "CLERKS" ["Staff ", "night"]) "olga" occasion)
  let missed := linked.after.turn
    (.mutation (.removeGroups "clerks" ["staff", "nobody"]) "olga" occasion)
  let reading := missed.after.turn (.mutation (.grant "clerks" read) "olga" occasion)
  let dropped := reading.after.turn (.mutation (.dropRole "Clerks ") "olga" occasion)
  let renewed := dropped.after.turn (.mutation (.createRole "clerks") "olga" occasion)
  let last := renewed.after.turn (.mutation (.addGroups "clerks" ["NIGHT"]) "olga" occasion)
  let turns := [named, linked, missed, reading, dropped, renewed, last]
  have run : Run Vault.KeepsCommitted libraryStore turns last.after :=
    .consSame _ (.consSame _ (.consSame _ (.consSame _ (.consSame _ (.consSame _ (.consSame _
      (.nil _)))))))
  obtain ⟨links, apart⟩ := run_links Catalogue.registered_library rfl run
  obtain ⟨free, ends, kept, night, staff⟩ : last.after.vault.hasWriter = false ∧
      turns.map (fun turn => turn.commit?.isSome) =
        [true, true, false, true, true, true, true] ∧
      Turn.lastBearing? "clerks" "staff" (turns.take 4) = some true ∧
      Turn.lastBearing? "CLERKS" " Night" turns = some true ∧
      Turn.lastBearing? "clerks" "staff" turns ≠ some true := by decide +kernel
  obtain ⟨groups, roles, ofRole, ofGroup, isGroup, isRole⟩ := links free "CLERKS" " Night"
  obtain ⟨others, -, ofClerks, -, isStaff, -⟩ := links free "clerks" "staff"
  exact ⟨turns, last.after, run, ends, kept,
    ⟨groups, roles, ofRole, ofGroup, isGroup.2 night, isRole.2 night⟩,
    ⟨others, ofClerks, fun member => staff (isStaff.1 member)⟩, apart⟩

end Entitlement
