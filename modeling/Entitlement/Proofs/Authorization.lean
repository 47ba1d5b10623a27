/-
This file says who may change the privileges of a role, from the entries of the group directory to
the answer of the store. A user belongs to all groups that any entry lists for one of the spellings
of his name. A group empowers its members if it is an admin group, or if one of its roles holds a
record that may be passed on and covers the privilege. Whoever is in no such group is denied, and
whoever is in one gets what the ledger makes of the change, as if nobody had asked.

The decision passes through four tables, each of which normalizes names for itself. Each of them is
described by its members here, so that nothing depends on the order in which the entries of the
directory were gone through.
-/

import Entitlement.Proofs.Permissions
import Entitlement.Proofs.Revoking
import Entitlement.Proofs.Undisturbed

namespace Entitlement

/-! ### The groups of a user -/

/-- Whether the entries of a directory list the group, given in normal form, for the user. -/
def ListsGroup (users : List (String × List String)) (user group : String) : Prop :=
  ∃ entry ∈ users, Text.normalize entry.1 = Text.normalize user ∧
    ∃ given ∈ entry.2, Text.normalize given = group

namespace GroupDirectory

theorem mem_groupsOf_addUser {directory : GroupDirectory} {name user group : String}
    {groups : List String} :
    group ∈ (directory.addUser name groups).groupsOf user ↔ group ∈ directory.groupsOf user ∨
      (Text.normalize name = Text.normalize user ∧
        ∃ given ∈ groups, Text.normalize given = group) := by
  unfold groupsOf addUser
  dsimp only
  rw [OrderedMap.get?_insert]
  by_cases same : Text.normalize name = Text.normalize user
  · rw [if_pos (Std.LawfulEqOrd.compare_eq_iff_eq.2 same), Option.getD_some,
      OrderedSet.mem_union, same]
    refine or_congr_right ?_
    rw [normalizeAll, OrderedSet.mem_ofList, List.mem_map]
    exact (and_iff_right rfl).symm
  · rw [if_neg fun equal => same (Std.LawfulEqOrd.compare_eq_iff_eq.1 equal)]
    exact (or_iff_left fun both => same both.1).symm

/-- The groups of a user are those that the entries list for him. -/
theorem mem_groupsOf_ofList {users : List (String × List String)} {user group : String} :
    group ∈ (ofList users).groupsOf user ↔ ListsGroup users user group := by
  have later : ∀ directory : GroupDirectory,
      group ∈ (users.foldl (fun directory user => directory.addUser user.1 user.2)
        directory).groupsOf user ↔
        group ∈ directory.groupsOf user ∨ ListsGroup users user group := by
    induction users with
    | nil => simp [ListsGroup]
    | cons entry rest inductionHypothesis =>
      intro directory
      rw [List.foldl_cons, inductionHypothesis, mem_groupsOf_addUser, or_assoc]
      simp only [ListsGroup, List.exists_mem_cons_iff]
  rw [ofList, later]
  exact or_iff_right (OrderedSet.not_mem_empty group)

end GroupDirectory

/-- Whether a source goes by these entries, gone through in any order. A source that cannot be
reached goes by none. -/
def GroupSource.GoesBy : GroupSource → List (String × List String) → Prop
  | listed directory, users => ∃ order : List (String × List String), order.Perm users ∧
    directory = GroupDirectory.ofList order
  | unreachable, users => users = []

theorem GroupSource.GoesBy.mem_groupsOf {source : GroupSource}
    {users : List (String × List String)} (goes : source.GoesBy users) {user group : String} :
    group ∈ source.groupsOf user ↔ ListsGroup users user group := by
  cases source with
  | listed directory =>
    obtain ⟨order, permuted, rfl⟩ := goes
    refine GroupDirectory.mem_groupsOf_ofList.trans ?_
    exact exists_congr fun entry => and_congr_left fun _ => permuted.mem_iff
  | unreachable =>
    obtain rfl : users = [] := goes
    simp [groupsOf, ListsGroup]

/-- Groups that are listed are normalized once more before they are compared. -/
theorem GroupSource.GoesBy.mem_normalizeAll {source : GroupSource}
    {users : List (String × List String)} (goes : source.GoesBy users) {user group : String} :
    group ∈ normalizeAll (source.groupsOf user) ↔ ListsGroup users user group := by
  have normal : ∀ other, ListsGroup users user other → Text.normalize other = other := by
    rintro other ⟨_, -, -, given, -, rfl⟩
    exact Text.normalize_normalize given
  rw [normalizeAll, OrderedSet.mem_ofList, List.mem_map]
  constructor
  · rintro ⟨given, member, rfl⟩
    have listed := goes.mem_groupsOf.1 member
    rwa [normal given listed]
  · intro listed
    exact ⟨group, goes.mem_groupsOf.2 listed, normal group listed⟩

/-! ### What a group allows its members -/

namespace Ledger

variable {catalogue : Catalogue} {ledger : Ledger}

/-- Whether the members of a group, given in normal form, may grant and revoke the privilege. It is
an admin group, or it belongs to a role that holds a record with a yes to passing on whose privilege
covers the one in question. -/
def Empowers (ledger : Ledger) (catalogue : Catalogue) (admins : List String)
    (privilege : Privilege) (group : String) : Prop :=
  (∃ admin ∈ admins, Text.normalize admin = group) ∨
    ∃ role number record found, ⟨role, group⟩ ∈ ledger.groupLinks ∧
      ⟨role, number⟩ ∈ ledger.holdings ∧ ledger.record? number = some record ∧
      record.key.grantOption = some true ∧ catalogue.ofKey record.key = .ok found ∧
      found.covers catalogue.vocabularies privilege = true

theorem mem_rolesOfGroups {groups : List String} {role : String} :
    role ∈ ledger.rolesOfGroups groups ↔
      ∃ group ∈ normalizeAll groups, ⟨role, group⟩ ∈ ledger.groupLinks := by
  unfold rolesOfGroups
  dsimp only
  rw [OrderedSet.mem_ofList, List.mem_map]
  constructor
  · rintro ⟨link, member, rfl⟩
    obtain ⟨isLink, isGroup⟩ := List.mem_filter.1 member
    exact ⟨link.group, OrderedSet.contains_iff.1 isGroup, isLink⟩
  · rintro ⟨group, isGroup, isLink⟩
    exact ⟨⟨role, group⟩, List.mem_filter.2 ⟨isLink, OrderedSet.contains_iff.2 isGroup⟩, rfl⟩

/-- The grant option of a privilege that is read back is that of its key. -/
theorem grantOption_of_ofKey {key : RecordKey} {found : Privilege}
    (read : catalogue.ofKey key = .ok found) : found.grantOption = key.grantOption := by
  obtain ⟨steps, -, built⟩ := bind_eq_ok.1 read
  obtain ⟨_, -, built⟩ := bind_eq_ok.1 (StoreError.lift_eq_ok.1 built)
  obtain ⟨_, -, built⟩ := bind_eq_ok.1 built
  obtain ⟨_, -, built⟩ := bind_eq_ok.1 built
  obtain ⟨_, -, built⟩ := bind_eq_ok.1 built
  obtain ⟨_, -, built⟩ := bind_eq_ok.1 built
  obtain ⟨_, -, built⟩ := bind_eq_ok.1 built
  rw [← pure_eq_ok.1 built]

/-- The check of a grantor always comes to an answer, and the answer is yes just if one of his
groups empowers him. -/
theorem Coherent.exists_mayPassOn (coherent : ledger.Coherent catalogue) (admins : List String)
    (privilege : Privilege) (groups : List String) :
    ∃ may, ledger.mayPassOn catalogue (normalizeAll admins) privilege groups = .ok may ∧
      (may = true ↔ ∃ group ∈ normalizeAll groups,
        ledger.Empowers catalogue admins privilege group) := by
  have isAdmin : ∀ group, group ∈ normalizeAll admins ↔
      ∃ admin ∈ admins, Text.normalize admin = group := fun group => by
    rw [normalizeAll, OrderedSet.mem_ofList, List.mem_map]
  unfold mayPassOn
  split
  · next some =>
    obtain ⟨group, member, found⟩ := List.any_eq_true.1 some
    refine ⟨true, rfl, iff_of_true rfl ⟨group, member, Or.inl ?_⟩⟩
    exact (isAdmin group).1 (OrderedSet.contains_iff.1 found)
  · next none =>
    obtain ⟨held, isHeld, allows⟩ := coherent.privilegesOfRoles (ledger.rolesOfGroups groups)
    refine ⟨_, bind_eq_ok.2 ⟨held, isHeld, rfl⟩, ?_⟩
    have asked : (held.any fun other => other.grantOption == some true &&
        other.covers catalogue.vocabularies privilege) = true ↔
        ∃ other ∈ held, other.Allows catalogue.vocabularies privilege true := by
      rw [List.any_eq_true]
      refine exists_congr fun other => and_congr_right fun _ => ?_
      rw [Bool.and_eq_true, beq_iff_eq, Privilege.Allows, and_comm]
      exact and_congr_right fun _ => (imp_iff_right rfl).symm
    rw [asked, allows]
    constructor
    · rintro ⟨role, isRole, key, ⟨number, record, isHolding, stored, rfl⟩, found, read, covers,
        passes⟩
      obtain ⟨group, member, isLink⟩ := mem_rolesOfGroups.1 isRole
      exact ⟨group, member, Or.inr ⟨role, number, record, found, isLink, isHolding, stored,
        (grantOption_of_ofKey read).symm.trans (passes rfl), read, covers⟩⟩
    · rintro ⟨group, member, admin | ⟨role, number, record, found, isLink, isHolding, stored,
        passes, read, covers⟩⟩
      · refine absurd (List.any_eq_true.2 ⟨group, member, ?_⟩) none
        exact OrderedSet.contains_iff.2 ((isAdmin group).2 admin)
      · exact ⟨role, mem_rolesOfGroups.2 ⟨group, member, isLink⟩, record.key,
          ⟨number, record, isHolding, stored, rfl⟩, found, read, covers,
          fun _ => (grantOption_of_ofKey read).trans passes⟩

/-- A grantor with a name passes the check just if one of his groups empowers him. -/
theorem Coherent.checkGrantor_cases (coherent : ledger.Coherent catalogue) (admins : List String)
    (privilege : Privilege) {grantor : String} (named : Text.isBlankText grantor = false)
    (groups : List String) :
    let empowered := ∃ group ∈ normalizeAll groups,
      ledger.Empowers catalogue admins privilege group
    let answer := ledger.checkGrantor catalogue (normalizeAll admins) privilege grantor groups
    (empowered → answer = .ok ()) ∧
      (¬empowered → answer = .error
        (.grantDenied (grantor ++ " has no grant option covering " ++ privilege.text))) := by
  obtain ⟨may, isMay, justIf⟩ := coherent.exists_mayPassOn admins privilege groups
  have isNamed : requireGrantor grantor = .ok () := by rw [requireGrantor, named]; rfl
  dsimp only
  rw [checkGrantor, isNamed, isMay, ← justIf]
  cases may with
  | true => exact ⟨fun _ => rfl, fun denied => absurd rfl denied⟩
  | false => exact ⟨fun allowed => absurd allowed Bool.false_ne_true, fun _ => rfl⟩

end Ledger

/-! ### Edits that are never denied -/

/-- A result that is no refusal for want of the right to grant. -/
def Undenied {Value : Type} (result : Except StoreError Value) : Prop :=
  ∀ why, result ≠ .error (.grantDenied why)

namespace Undenied

variable {Value Result : Type}

theorem ok (value : Value) : Undenied (.ok value) :=
  fun _ denied => by cases denied

theorem lift (result : Except ModelError Value) : Undenied (StoreError.lift result) := by
  intro why denied
  cases result with
  | ok value => cases denied
  | error reason =>
    have same : StoreError.ofModel reason = .grantDenied why := Except.error.inj denied
    unfold StoreError.ofModel at same
    split at same <;> cases same

theorem bind {first : Except StoreError Value} {next : Value → Except StoreError Result}
    (early : Undenied first) (late : ∀ value, first = .ok value → Undenied (next value)) :
    Undenied (first >>= next) := by
  cases first with
  | error reason => exact fun why denied => early why (by cases denied; rfl)
  | ok value => exact late value rfl

theorem foldlM {Item : Type} {step : Value → Item → Except StoreError Value} {items : List Item}
    (each : ∀ value item, Undenied (step value item)) (start : Value) :
    Undenied (items.foldlM step start) := by
  induction items generalizing start with
  | nil => exact .ok start
  | cons item rest inductionHypothesis =>
    rw [List.foldlM_cons]
    exact .bind (each start item) fun value _ => inductionHypothesis value

end Undenied

namespace Ledger

variable {catalogue : Catalogue} {ledger : Ledger}

theorem undenied_requireRole (role : String) : Undenied (ledger.requireRole role) := by
  unfold requireRole
  dsimp only
  split
  · exact .ok _
  · exact fun why denied => by cases denied

theorem undenied_toKey (privilege : Privilege) : Undenied (catalogue.toKey privilege) :=
  .bind (.lift _) fun _ _ => .bind (.lift _) fun _ _ => .ok _

theorem undenied_grant (role : String) (privilege : Privilege) (grantor : String)
    (now : Timestamp) : Undenied (ledger.grant catalogue role privilege grantor now).result := by
  rw [grant, Edited.result_ofResult]
  refine .bind (undenied_requireRole role) fun name _ => .bind (undenied_toKey privilege)
    fun key _ => .bind (.lift _) fun all _ => .bind (.lift _) fun action _ => ?_
  split
  · exact .ok _
  · split
    · exact .ok _
    · exact .ok _

theorem undenied_revokeRecord (role : String) (action : Action) (number : Nat) (grantor : String)
    (now : Timestamp) :
    Undenied (ledger.revokeRecord catalogue role action number grantor now) := by
  unfold revokeRecord
  split
  · exact .ok _
  · refine .bind (.lift _) fun all _ => .bind (.lift _) fun held _ => ?_
    split
    · exact .ok _
    · split
      · exact .ok _
      · split
        · exact .ok _
        · exact .ok _

theorem Coherent.undenied_revoke (coherent : ledger.Coherent catalogue) (role : String)
    (privilege : Privilege) (grantor : String) (now : Timestamp) :
    Undenied (ledger.revoke catalogue role privilege grantor now).result := by
  unfold revoke
  dsimp only
  split
  · next reason plan =>
    intro why denied
    obtain rfl : reason = .grantDenied why := Except.error.inj denied
    refine Undenied.bind (undenied_requireRole role) (fun name _ => ?_) why plan
    refine .bind (undenied_toKey privilege) fun key _ => .bind (.lift _) fun action _ => ?_
    obtain ⟨entries, included⟩ := coherent.exists_included (Target.ofPrivilege privilege)
      (some (OrderedSet.ofList [name]))
    rw [included]
    exact .ok _
  · rw [Edited.result_each]
    exact .foldlM (fun _ number => undenied_revokeRecord _ _ number _ _) ledger

end Ledger

/-! ### The answer of the store -/

/-- Saving fails because the store is unavailable. -/
theorem Vault.isServerFault_of_accept {vault next : Vault} {ledger : Ledger} {reason : StoreError}
    (refusal : ∀ reason, vault.refusal = some reason → reason.isServerFault = true)
    (failed : vault.accept ledger = (next, some reason)) : reason.isServerFault = true := by
  unfold accept at failed
  split at failed
  · next because refused =>
    obtain ⟨-, same⟩ := Prod.mk.inj failed
    exact refusal reason (refused.trans same)
  · split at failed
    · cases failed
    · split at failed
      · next disk because saved =>
        obtain ⟨-, same⟩ := Prod.mk.inj failed
        obtain rfl := Option.some.inj same
        unfold save at saved
        dsimp only at saved
        split at saved
        · cases saved
          rfl
        · split at saved
          · cases saved
            rfl
          · cases saved
      · cases failed

namespace Store

/-- A change comes to what its edit makes of the committed ledger. -/
theorem change_congr {store : Store} {edit other : Ledger → Except StoreError Ledger}
    (same : edit store.vault.committed = other store.vault.committed) (requestor : String)
    (occasion : Occasion) (change : Change) :
    store.change requestor occasion change edit =
      store.change requestor occasion change other := by
  unfold Store.change
  cases began : store.vault.beginWrite with
  | error reason => rfl
  | ok opening =>
    obtain ⟨view, -⟩ := Vault.commit_edit began
    dsimp only
    rw [view, same]

section Calm

variable {store : Store} (calm : store.vault.IsCalm) {requestor : String} {occasion : Occasion}
  {change : Change} {edit : Ledger → Except StoreError Ledger}

include calm

/-- What an edit refuses, the change refuses for the same reason. -/
theorem answer_change_of_error {reason : StoreError}
    (refused : edit store.vault.committed = .error reason) :
    (store.change requestor occasion change edit).answer = .error reason := by
  rw [change_of_idle calm.idle, refused]
  rfl

/-- A change is denied only by its edit. -/
theorem undenied_change (undenied : Undenied (edit store.vault.committed)) :
    Undenied (store.change requestor occasion change edit).answer := by
  rw [change_of_idle calm.idle]
  split
  · next reason refused =>
    intro why denied
    obtain rfl : reason = .grantDenied why := Except.error.inj denied
    exact undenied why refused
  · split
    · next vault reason failed =>
      intro why denied
      obtain rfl : reason = .grantDenied why := Except.error.inj denied
      have refusal : ∀ reason, store.vault.counted.refusal = some reason →
          reason.isServerFault = true := calm.refusal
      exact absurd (Vault.isServerFault_of_accept refusal failed) Bool.false_ne_true
    · exact .ok _

end Calm

/-- Whether one of the groups that the entries list for a user empowers its members. -/
def Entitles (store : Store) (users : List (String × List String)) (admins : List String)
    (privilege : Privilege) (user : String) : Prop :=
  ∃ group, ListsGroup users user group ∧
    store.vault.committed.Empowers store.catalogue admins privilege group

/-- What comes of a call by which a grantor changes the privileges of a role, compared with what
comes of the same change when nobody asks who makes it. -/
structure Decides (store : Store) (users : List (String × List String)) (admins : List String)
    (role : String) (privilege : Privilege) (grantor : String) (outcome free : Outcome) :
    Prop where
  nameless : Text.isBlankText grantor = true →
    outcome = store.refuse (.invalidInput "grantor must not be blank")
  unknownRole : Text.isBlankText grantor = false →
    store.vault.committed.hasRole role = false →
    outcome.answer = .error (.noSuchObject ("role " ++ Text.normalize role))
  denied : Text.isBlankText grantor = false → store.vault.committed.hasRole role = true →
    ((∃ why, outcome.answer = .error (.grantDenied why)) ↔
      ¬store.Entitles users admins privilege grantor)
  granted : Text.isBlankText grantor = false → store.vault.committed.hasRole role = true →
    store.Entitles users admins privilege grantor → outcome = free

/-- The change that a store makes on behalf of a grantor, decided by an edit that is never denied
by itself. -/
theorem decides_change {store : Store} (calm : store.vault.IsCalm)
    (coherent : store.vault.committed.Coherent store.catalogue)
    {users : List (String × List String)} (goes : store.groups.GoesBy users)
    {admins : List String} (isAdmins : store.adminGroups = normalizeAll admins) (role : String)
    (privilege : Privilege) (grantor : String) (occasion : Occasion) (change : Change)
    {edit : Ledger → Except StoreError Ledger}
    (undenied : Undenied (edit store.vault.committed)) :
    store.Decides users admins role privilege grantor
      (match requireGrantor grantor with
        | .error reason => store.refuse reason
        | .ok () => store.change grantor occasion change
          (store.delegated (Text.normalize role) privilege grantor edit))
      (store.change grantor occasion change edit) := by
  have entitled : (∃ group ∈ normalizeAll (store.groups.groupsOf grantor),
      store.vault.committed.Empowers store.catalogue admins privilege group) ↔
        store.Entitles users admins privilege grantor :=
    exists_congr fun group => and_congr_left fun _ => goes.mem_normalizeAll
  cases named : Text.isBlankText grantor with
  | true =>
    have refused : requireGrantor grantor = .error (.invalidInput "grantor must not be blank") := by
      rw [requireGrantor, named]
      rfl
    rw [refused]
    exact ⟨fun _ => rfl, by simp [named], by simp [named], by simp [named]⟩
  | false =>
    have passed : requireGrantor grantor = .ok () := by rw [requireGrantor, named]; rfl
    have decided := coherent.checkGrantor_cases admins privilege named
      (store.groups.groupsOf grantor)
    rw [← isAdmins, entitled] at decided
    obtain ⟨allows, denies⟩ := decided
    rw [passed]
    have required : store.vault.committed.hasRole role = true →
        store.vault.committed.requireRole (Text.normalize role) = .ok (Text.normalize role) :=
      fun known => Ledger.requireRole_eq_ok.2
        ⟨(Ledger.hasRole_normalize role).trans known, Text.normalize_normalize role⟩
    have free : store.vault.committed.hasRole role = true →
        store.Entitles users admins privilege grantor →
        store.change grantor occasion change
            (store.delegated (Text.normalize role) privilege grantor edit) =
          store.change grantor occasion change edit := by
      intro known may
      refine change_congr ?_ grantor occasion change
      rw [delegated, required known, allows may]
      rfl
    refine ⟨by simp [named], fun _ unknown => ?_, fun _ known => ⟨?_, fun mayNot => ?_⟩,
      fun _ known => free known⟩
    · refine answer_change_of_error calm ?_
      rw [delegated, Ledger.requireRole]
      rw [Text.normalize_normalize, if_neg (by rw [← Ledger.hasRole, unknown]; decide)]
      rfl
    · rintro ⟨why, denied⟩ may
      rw [free known may] at denied
      exact undenied_change calm undenied why denied
    · refine ⟨grantor ++ " has no grant option covering " ++ privilege.text,
        answer_change_of_error calm ?_⟩
      rw [delegated, required known, denies mayNot]
      rfl

end Store

/-- Who may change the privileges of a role, after any run of a store that began with an empty
ledger, by any entries of the group directory and any admin groups. A grantor without a name is
refused before anything is looked up, and then a role that does not exist. Beyond that, granting and
revoking are denied just if no group that the entries list for the grantor is an admin group or
empowers him by a record, and else they come to what the ledger makes of them. -/
theorem grantors_decided {start store : Store} {turns : List Turn}
    (registered : start.catalogue.Registered) (fresh : start.vault.committed = Ledger.empty)
    (calm : start.vault.IsCalm) (run : Run Vault.Befalls start turns store)
    {users : List (String × List String)} (goes : store.groups.GoesBy users)
    {admins : List String} (isAdmins : store.adminGroups = normalizeAll admins) (role : String)
    (privilege : Privilege) (grantor : String) (occasion : Occasion) :
    store.Decides users admins role privilege grantor
        (store.grant role privilege grantor occasion)
        (store.change grantor occasion (.privilegeGranted (Text.normalize role) privilege)
          fun ledger => (ledger.grant store.catalogue (Text.normalize role) privilege grantor
            occasion.now).result) ∧
      store.Decides users admins role privilege grantor
        (store.revoke role privilege grantor occasion)
        (store.change grantor occasion (.privilegeRevoked (Text.normalize role) privilege)
          fun ledger => (ledger.revoke store.catalogue (Text.normalize role) privilege grantor
            occasion.now).result) := by
  have reached : store.vault.committed.Reachable store.catalogue := by
    rw [run.settings.1]
    refine ((run.mono fun _ _ => And.left).reachable ?_ ?_).1
    · rw [fresh]
      exact .empty
    · rw [fresh]
      exact Ledger.pruned_prune Ledger.empty
  have coherent := reached.coherent (run.settings.1 ▸ registered)
  have stays := run.isCalm calm
  exact ⟨Store.decides_change stays coherent goes isAdmins role privilege grantor occasion _
      (Ledger.undenied_grant _ _ _ _),
    Store.decides_change stays coherent goes isAdmins role privilege grantor occasion _
      (coherent.undenied_revoke _ _ _ _)⟩

/-- The store of the library with a directory that lists one user under two spellings. -/
def staffedLibrary : Store :=
  { libraryStore with
    groups := .listed (GroupDirectory.ofList
      [("Bob ", ["Night"]), ("olga", ["Admins"]), ("bob", ["Staff"])]) }

/-- Whoever is in the group of a role that may pass reading on may grant it, also under another
spelling of his name; a stranger may not. -/
theorem grantors_decided_library :
    ∃ (turns : List Turn) (store : Store), Run Vault.Befalls staffedLibrary turns store ∧
      let users := [("bob", ["Staff"]), ("Bob ", ["Night"]), ("olga", ["Admins"])]
      store.Entitles users ["ADMINS "] (libraryPrivilege "read") " BOB" ∧
        ¬store.Entitles users ["ADMINS "] (libraryPrivilege "read") "eve" ∧
        store.grant "clerks" (libraryPrivilege "read") " BOB" ⟨default, default⟩ =
          store.change " BOB" ⟨default, default⟩
            (.privilegeGranted (Text.normalize "clerks") (libraryPrivilege "read"))
            fun ledger => (ledger.grant store.catalogue (Text.normalize "clerks")
              (libraryPrivilege "read") " BOB" default).result := by
  let occasion : Occasion := ⟨default, default⟩
  let read : BuiltPrivilege := ⟨libraryPrivilege "read", (libraryPrivilege "read").toDraft, rfl⟩
  let named := staffedLibrary.turn (.mutation (.createRole "Clerks") "olga" occasion)
  let linked := named.after.turn (.mutation (.addGroups "Clerks" ["STAFF"]) "olga" occasion)
  let reading := linked.after.turn (.mutation (.grant "Clerks" read) "olga" occasion)
  have moved : ∀ vault : Vault, vault.refusal = none → vault.Befalls vault :=
    fun vault willing => ⟨rfl, rfl, fun reason refused => by rw [willing] at refused; cases refused⟩
  have run : Run Vault.Befalls staffedLibrary [named, linked, reading] reading.after := by
    refine .cons _ _ (moved _ rfl) (.cons _ _ (moved _ ?_) (.cons _ _ (moved _ ?_) (.nil _)))
    · decide +kernel
    · decide +kernel
  have calm : staffedLibrary.vault.IsCalm := ⟨rfl, fun reason refused => by cases refused⟩
  have goes : reading.after.groups.GoesBy
      [("bob", ["Staff"]), ("Bob ", ["Night"]), ("olga", ["Admins"])] := by
    rw [run.settings.2.2]
    exact ⟨[("Bob ", ["Night"]), ("olga", ["Admins"]), ("bob", ["Staff"])], by decide, rfl⟩
  have isAdmins : reading.after.adminGroups = normalizeAll ["ADMINS "] := by
    rw [run.settings.2.1]
    decide +kernel
  have decides := fun grantor => (grantors_decided Catalogue.registered_library rfl calm run goes
    isAdmins "clerks" (libraryPrivilege "read") grantor occasion).1
  have known : reading.after.vault.committed.hasRole "clerks" = true := by decide +kernel
  have made : (reading.after.grant "clerks" (libraryPrivilege "read") " BOB" occasion).answer.isOk =
      true := by decide +kernel
  have entitled : reading.after.Entitles [("bob", ["Staff"]), ("Bob ", ["Night"]),
      ("olga", ["Admins"])] ["ADMINS "] (libraryPrivilege "read") " BOB" := by
    by_contra mayNot
    obtain ⟨why, denied⟩ := ((decides " BOB").denied (by decide) known).2 mayNot
    rw [denied] at made
    cases made
  refine ⟨[named, linked, reading], reading.after, run, entitled, ?_,
    (decides " BOB").granted (by decide) known entitled⟩
  rintro ⟨group, ⟨entry, member, same, -⟩, -⟩
  revert entry
  decide +kernel

end Entitlement
