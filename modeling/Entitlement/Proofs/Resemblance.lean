/-
This file compares two stores that resemble each other: they have the same settings, and their
vaults differ in times of rows and texts of files alone. What is asked of both finds the same in
both, and a change that is made in both, each at a time of its own, comes to the same in both: it
is refused for the same reason, or it gets the same number and the same is announced, and the stores
resemble each other again.
-/

import Entitlement.Proofs.Outlines

namespace Entitlement

/-! ### Answers from a ledger without times -/

namespace Ledger

variable (ledger : Ledger) (catalogue : Catalogue)

theorem ofRecords_undated (entries : List (Nat × Record)) :
    catalogue.ofRecords ((entries.map fun entry => (entry.1, entry.2.undated)).map Prod.snd) =
      catalogue.ofRecords (entries.map Prod.snd) := by
  unfold Catalogue.ofRecords
  simp only [List.mapM_map]
  rfl

theorem privilegesOfRoles_undated (roles : OrderedSet String) :
    ledger.undated.privilegesOfRoles catalogue roles = ledger.privilegesOfRoles catalogue roles := by
  unfold privilegesOfRoles
  rw [candidates_undated, ofRecords_undated]

theorem privilegesOfService_undated (component service : String)
    (roles : Option (OrderedSet String)) (steps : List Step) :
    ledger.undated.privilegesOfService catalogue component service roles steps =
      ledger.privilegesOfService catalogue component service roles steps := by
  unfold privilegesOfService
  rw [included_undated, bind_map_eq]
  exact bind_congr fun entries => ofRecords_undated catalogue entries

theorem namedRoles_undated (roles groups : List String) :
    Store.namedRoles ledger.undated roles groups = Store.namedRoles ledger roles groups := by
  have known : ledger.undated.hasRole = ledger.hasRole :=
    funext fun role => containsRole_undated ledger (Text.normalize role)
  unfold Store.namedRoles
  rw [known]
  rfl

theorem checkGrantor_undated (adminGroups : OrderedSet String) (privilege : Privilege)
    (grantor : String) (groups : List String) :
    ledger.undated.checkGrantor catalogue adminGroups privilege grantor groups =
      ledger.checkGrantor catalogue adminGroups privilege grantor groups := by
  unfold checkGrantor mayPassOn
  rw [privilegesOfRoles_undated]
  rfl

end Ledger

theorem Edited.result_undated (edited : Edited) :
    edited.undated.result = edited.result.map Ledger.undated := by
  obtain ⟨ledger, _ | _⟩ := edited <;> rfl

theorem Store.undated_delegated (store : Store) (role : String) (privilege : Privilege)
    (grantor : String) {edit undatedEdit : Ledger → Except StoreError Ledger} {ledger : Ledger}
    (same : (edit ledger).map Ledger.undated = undatedEdit ledger.undated) :
    (store.delegated role privilege grantor edit ledger).map Ledger.undated =
      store.delegated role privilege grantor undatedEdit ledger.undated := by
  unfold Store.delegated
  rw [map_bind_eq, Ledger.requireRole_undated, Ledger.checkGrantor_undated]
  refine bind_congr fun _ => ?_
  rw [map_bind_eq, same]

/-- What a change makes of a ledger without times is what it makes of the ledger, up to times. -/
theorem Mutation.undated_edit (mutation : Mutation) (store : Store) (requestor : String)
    (now : Timestamp) (ledger : Ledger) :
    (mutation.edit store requestor now ledger).map Ledger.undated =
      mutation.edit store requestor default ledger.undated := by
  cases mutation with
  | createRole role => exact ledger.undated_createRole (Text.normalize role) now
  | dropRole role => exact ledger.undated_dropRole (Text.normalize role)
  | addGroups role groups =>
    exact ledger.undated_addGroups (Text.normalize role) (normalizeAll groups).elements now
  | removeGroups role groups =>
    exact ledger.undated_removeGroups (Text.normalize role) (normalizeAll groups).elements
  | grant role privilege =>
    unfold edit
    refine store.undated_delegated _ _ _ ?_
    rw [← Edited.result_undated, Ledger.undated_grant]
  | revoke role privilege =>
    unfold edit
    refine store.undated_delegated _ _ _ ?_
    rw [← Edited.result_undated, Ledger.undated_revoke]
  | drop privilege =>
    unfold edit
    rw [← Edited.result_undated, Ledger.undated_drop]
  | rename component service old new =>
    unfold edit
    rw [← Edited.result_undated, Ledger.undated_rename]

/-! ### Without occasions and servers -/

/-- The commit without the server that made it. -/
def Commit.anonymous (commit : Commit) : Commit :=
  { commit with server := default }

/-- The event without its identifier, its time and the server that published it. -/
def Event.anonymous (event : Event) : Event :=
  { event with id := default, time := default, commit := event.commit.anonymous }

/-- The reply without the server that made a commit. -/
def Reply.anonymous : Reply → Reply
  | made answer => made (answer.map Commit.anonymous)
  | found answer => found answer

/-! ### Stores that resemble each other -/

/-- Two stores with the same settings and the same number of commits, whose vaults differ in times
of rows and texts of files alone. -/
structure Store.Resembles (store other : Store) : Prop where
  vault : store.vault.outline = other.vault.outline
  catalogue : store.catalogue = other.catalogue
  adminGroups : store.adminGroups = other.adminGroups
  groups : ∀ user, store.groups.groupsOf user = other.groups.groupsOf user
  sequence : store.sequence = other.sequence

/-- Two outcomes of which each is that of the other at another time and in another store. -/
structure Outcome.Resembles (outcome twin : Outcome) : Prop where
  store : outcome.store.Resembles twin.store
  answer : outcome.answer.map Commit.anonymous = twin.answer.map Commit.anonymous
  announced : outcome.announced.map Event.anonymous = twin.announced.map Event.anonymous

namespace Store.Resembles

variable {store other : Store} (resembles : store.Resembles other)

include resembles

theorem committed : store.vault.committed.undated = other.vault.committed.undated :=
  congrArg Vault.committed resembles.vault

theorem withVaults {vault twin : Vault} (same : vault.outline = twin.outline) :
    { store with vault := vault }.Resembles { other with vault := twin } :=
  ⟨same, resembles.catalogue, resembles.adminGroups, resembles.groups, resembles.sequence⟩

/-- What a query finds that does not see times. -/
theorem ask {Answer : Type} {query : Ledger → Except StoreError Answer}
    (blind : ∀ ledger : Ledger, query ledger.undated = query ledger) :
    store.ask query = other.ask query := by
  have begins : store.vault.beginRead.map (fun begun => (begun.1, begun.2.outline)) =
      other.vault.beginRead.map fun begun => (begun.1, begun.2.outline) := by
    rw [← Vault.beginRead_outline, ← Vault.beginRead_outline, resembles.vault]
  unfold Store.ask
  rw [← blind store.vault.committed, resembles.committed, blind]
  rcases cases_of_map_eq_map begins with ⟨reason, failed, twinFailed⟩ |
    ⟨begun, twinBegun, begins, twinBegins, -⟩
  · rw [failed, twinFailed]
  · rw [begins, twinBegins]
    rfl

theorem query (query : Query) : query.ask store = query.ask other := by
  cases query with
  | rolesOfGroups groups =>
    have same : store.rolesOfGroups groups = other.rolesOfGroups groups :=
      resembles.ask fun _ => rfl
    simp only [Query.ask, same]
  | groupsOfRoles roles =>
    have same : store.groupsOfRoles roles = other.groupsOfRoles roles :=
      resembles.ask fun _ => rfl
    simp only [Query.ask, same]
  | privilegesOfRoles roles =>
    have same : store.privilegesOfRoles roles = other.privilegesOfRoles roles := by
      unfold Store.privilegesOfRoles
      rw [resembles.catalogue]
      exact resembles.ask fun ledger => ledger.privilegesOfRoles_undated ..
    simp only [Query.ask, same]
  | privilegesOfService component service roles groups steps =>
    have same : store.privilegesOfService component service roles groups steps =
        other.privilegesOfService component service roles groups steps := by
      unfold Store.privilegesOfService
      rw [resembles.catalogue]
      refine resembles.ask fun ledger => ?_
      simp only [Ledger.namedRoles_undated, Ledger.privilegesOfService_undated]
    simp only [Query.ask, same]

theorem refuse (reason : StoreError) :
    (store.refuse reason).Resembles (other.refuse reason) :=
  ⟨resembles, rfl, rfl⟩

theorem conclude (requestor : String) (occasion otherOccasion : Occasion) (change : Change) :
    (store.conclude requestor occasion change).Resembles
      (other.conclude requestor otherOccasion change) := by
  have number : store.sequence + 1 = other.sequence + 1 := congrArg (· + 1) resembles.sequence
  have commit : Commit.anonymous ⟨store.server, store.sequence + 1⟩ =
      Commit.anonymous ⟨other.server, other.sequence + 1⟩ :=
    congrArg (Commit.mk default) number
  refine ⟨?_, congrArg Except.ok commit, congrArg some ?_⟩
  · exact ⟨resembles.vault, resembles.catalogue, resembles.adminGroups, resembles.groups, number⟩
  · exact congrArg (fun commit : Commit => Event.mk default change.topic commit requestor default 1
      change.toJson.canonical) commit

/-- Edits that do the same up to times come to the same. -/
theorem change {edit twinEdit : Ledger → Except StoreError Ledger}
    (same : (edit store.vault.committed).map Ledger.undated =
      (twinEdit other.vault.committed).map Ledger.undated)
    (requestor : String) (occasion otherOccasion : Occasion) (change : Change) :
    (store.change requestor occasion change edit).Resembles
      (other.change requestor otherOccasion change twinEdit) := by
  have begins : store.vault.beginWrite.map (fun begun => (begun.1, begun.2.outline)) =
      other.vault.beginWrite.map fun begun => (begun.1, begun.2.outline) := by
    rw [← Vault.beginWrite_outline, ← Vault.beginWrite_outline, resembles.vault]
  unfold Store.change
  rcases cases_of_map_eq_map begins with ⟨reason, failed, twinFailed⟩ |
    ⟨⟨number, vault⟩, ⟨twinNumber, twin⟩, began, twinBegan, sameBegun⟩
  · rw [failed, twinFailed]
    exact resembles.refuse reason
  obtain ⟨rfl, opened⟩ : number = twinNumber ∧ vault.outline = twin.outline := Prod.mk.inj sameBegun
  rw [began, twinBegan]
  dsimp only
  rw [(Vault.commit_edit began).1, (Vault.commit_edit twinBegan).1]
  rcases cases_of_map_eq_map same with ⟨reason, failed, twinFailed⟩ |
    ⟨ledger, twinLedger, edited, twinEdited, sameLedger⟩
  · rw [failed, twinFailed]
    refine refuse (resembles.withVaults ?_) reason
    rw [Vault.outline_discard, Vault.outline_discard, opened]
  · rw [edited, twinEdited]
    have drafts : (vault.edit number ledger.prune).outline =
        (twin.edit number twinLedger.prune).outline := by
      rw [Vault.outline_edit, Vault.outline_edit, Ledger.undated_prune, Ledger.undated_prune,
        sameLedger, opened]
    obtain ⟨saved, ended⟩ := Vault.commit_of_outline_eq drafts number
    dsimp only
    generalize (vault.edit number ledger.prune).commit number = result at saved ended
    generalize (twin.edit number twinLedger.prune).commit number = twinResult at saved ended
    obtain ⟨next, failure⟩ := result
    obtain ⟨twinNext, twinFailure⟩ := twinResult
    obtain rfl : failure = twinFailure := ended
    cases failure with
    | some reason => exact refuse (resembles.withVaults saved) reason
    | none => exact conclude (resembles.withVaults saved) ..

/-- What a change makes of a ledger is up to the settings. -/
theorem edit_eq (mutation : Mutation) (requestor : String) (now : Timestamp) :
    mutation.edit store requestor now = mutation.edit other requestor now := by
  cases mutation with
  | grant role privilege | revoke role privilege =>
    funext ledger
    simp only [Mutation.edit, delegated, resembles.catalogue, resembles.adminGroups,
      resembles.groups]
  | drop privilege => simp only [Mutation.edit, resembles.catalogue]
  | rename component service old new => simp only [Mutation.edit, resembles.catalogue]
  | _ => rfl

theorem perform (mutation : Mutation) (requestor : String) (occasion otherOccasion : Occasion) :
    (mutation.perform store requestor occasion).Resembles
      (mutation.perform other requestor otherOccasion) := by
  have edits : (mutation.edit store requestor occasion.now store.vault.committed).map
      Ledger.undated =
      (mutation.edit other requestor otherOccasion.now other.vault.committed).map
        Ledger.undated := by
    rw [Mutation.undated_edit, Mutation.undated_edit, resembles.edit_eq, resembles.committed]
  have changes := resembles.change edits requestor occasion otherOccasion mutation.change
  cases mutation with
  | grant role privilege =>
    simp only [Mutation.perform, Store.grant]
    split
    · exact resembles.refuse _
    · exact changes
  | revoke role privilege =>
    simp only [Mutation.perform, Store.revoke]
    split
    · exact resembles.refuse _
    · exact changes
  | _ => exact changes

end Store.Resembles

end Entitlement
