/-
This file compares two stores that go by the same registries and have the same ledger, such as one
that is opened anew over the file of another. They find the same, and the same calls leave the same
ledger in both, with the same numbers for new records: in any surroundings if the same calls
succeed, and without exception if nothing else happens and both save to the same file.
-/

import Entitlement.Proofs.Undisturbed

namespace Entitlement

namespace Store

/-- Two stores with the same catalogue, admin groups and directory. -/
structure SharesRegistries (store other : Store) : Prop where
  catalogue : store.catalogue = other.catalogue
  adminGroups : store.adminGroups = other.adminGroups
  groups : store.groups = other.groups

namespace SharesRegistries

theorem withVault (store : Store) (vault : Vault) :
    { store with vault := vault }.SharesRegistries store :=
  ⟨rfl, rfl, rfl⟩

variable {store other : Store} (shares : store.SharesRegistries other)

include shares

/-- What a change makes of a ledger is up to the registries. -/
theorem edit_eq (mutation : Mutation) (requestor : String) (now : Timestamp) :
    mutation.edit store requestor now = mutation.edit other requestor now := by
  cases mutation with
  | grant role privilege | revoke role privilege =>
    funext ledger
    simp only [Mutation.edit, delegated, shares.catalogue, shares.adminGroups, shares.groups]
  | drop privilege => simp only [Mutation.edit, shares.catalogue]
  | rename component service old new => simp only [Mutation.edit, shares.catalogue]
  | _ => rfl

theorem withVaults (vault otherVault : Vault) :
    { store with vault := vault }.SharesRegistries { other with vault := otherVault } :=
  ⟨shares.catalogue, shares.adminGroups, shares.groups⟩

theorem turn (call : Call) : (store.turn call).after.SharesRegistries (other.turn call).after := by
  obtain ⟨catalogue, adminGroups, groups⟩ := store.settings_turn call
  obtain ⟨otherCatalogue, otherAdminGroups, otherGroups⟩ := other.settings_turn call
  exact ⟨catalogue.trans (shares.catalogue.trans otherCatalogue.symm),
    adminGroups.trans (shares.adminGroups.trans otherAdminGroups.symm),
    groups.trans (shares.groups.trans otherGroups.symm)⟩

end SharesRegistries

/-! ### Queries -/

theorem ask_of_free {Answer : Type} {store : Store} (free : store.vault.hasWriter = false)
    (query : Ledger → Except StoreError Answer) :
    store.ask query = query store.vault.committed := by
  rw [ask, Vault.beginRead, free]
  rfl

/-- While no writing transaction runs, what a query finds is up to the ledger and the catalogue. -/
theorem ask_eq {store other : Store} (shares : store.SharesRegistries other)
    (same : store.vault.committed = other.vault.committed) (free : store.vault.hasWriter = false)
    (otherFree : other.vault.hasWriter = false) (query : Query) :
    query.ask store = query.ask other := by
  cases query <;>
    simp only [Query.ask, rolesOfGroups, groupsOfRoles, privilegesOfRoles, privilegesOfService,
      ask_of_free free, ask_of_free otherFree, same, shares.catalogue]

/-! ### Calls in any surroundings -/

theorem call_turn (store : Store) (call : Call) : (store.turn call).call = call := by
  cases call <;> rfl

/-- A call that succeeds in both stores or in neither leaves the same ledger. -/
theorem committed_turn_of_agree {store other : Store} (shares : store.SharesRegistries other)
    (same : store.vault.committed = other.vault.committed) (call : Call)
    (agree : (store.turn call).commit?.isSome = (other.turn call).commit?.isSome) :
    (store.turn call).after.vault.committed = (other.turn call).after.vault.committed := by
  cases call with
  | query query => exact same
  | mutation mutation requestor occasion =>
    have result := store.performed mutation requestor occasion
    have otherResult := other.performed mutation requestor occasion
    simp only [Store.turn] at agree ⊢
    generalize mutation.perform store requestor occasion = outcome at result agree
    generalize mutation.perform other requestor occasion = otherOutcome at otherResult agree
    cases result with
    | refused vault reason kept =>
      cases otherResult with
      | refused otherVault otherReason otherKept => exact kept.trans (same.trans otherKept.symm)
      | committed => cases agree
    | committed vault ledger edited saved =>
      cases otherResult with
      | refused => cases agree
      | committed otherVault otherLedger otherEdited otherSaved =>
        rw [← shares.edit_eq, ← same, edited] at otherEdited
        obtain rfl := Except.ok.inj otherEdited
        exact saved.trans otherSaved.symm

end Store

/-- Runs of the same calls, of which the same succeed, lead to the same ledger. -/
theorem Run.committed_eq {store final other last : Store} {turns others : List Turn}
    (run : Run Vault.KeepsCommitted store turns final)
    (otherRun : Run Vault.KeepsCommitted other others last)
    (shares : store.SharesRegistries other) (same : store.vault.committed = other.vault.committed)
    (calls : turns.map Turn.call = others.map Turn.call)
    (agree : turns.map (fun turn => turn.commit?.isSome) =
      others.map fun turn => turn.commit?.isSome) :
    final.vault.committed = last.vault.committed := by
  induction run generalizing other others with
  | nil store =>
    cases otherRun with
    | nil => exact same
    | cons => cases calls
  | cons vault call moved _ inductionHypothesis =>
    cases otherRun with
    | nil => cases calls
    | cons otherVault otherCall otherMoved otherRest =>
      obtain ⟨sameCall, laterCalls⟩ := List.cons.inj calls
      obtain ⟨sameEnd, laterEnds⟩ := List.cons.inj agree
      rw [Store.call_turn, Store.call_turn] at sameCall
      subst sameCall
      have shares := shares.withVaults vault otherVault
      refine inductionHypothesis otherRest (shares.turn call) ?_ laterCalls laterEnds
      have same := moved.trans (same.trans otherMoved.symm)
      exact Store.committed_turn_of_agree shares same call sameEnd

/-! ### Calls that nothing disturbs -/

/-- Two vaults with the same ledger that save to the same file on equal disks. -/
structure Vault.Alike (vault other : Vault) : Prop where
  committed : vault.committed = other.committed
  path : vault.path = other.path
  disk : vault.disk = other.disk
  refusal : vault.refusal = other.refusal

theorem Vault.Alike.accept {vault other : Vault} (alike : vault.Alike other) (ledger : Ledger) :
    (vault.accept ledger).1.Alike (other.accept ledger).1 ∧
      (vault.accept ledger).2 = (other.accept ledger).2 := by
  unfold Vault.accept
  rw [alike.refusal, alike.path, alike.disk]
  split
  · exact ⟨alike, rfl⟩
  · split
    · exact ⟨⟨rfl, rfl, rfl, rfl⟩, rfl⟩
    · split
      · exact ⟨⟨alike.committed, rfl, rfl, rfl⟩, rfl⟩
      · exact ⟨⟨rfl, rfl, rfl, rfl⟩, rfl⟩

namespace Store

/-- Two stores that nobody else uses, with the same registries and with vaults that are alike. -/
structure Alike (store other : Store) : Prop where
  shares : store.SharesRegistries other
  vault : store.vault.Alike other.vault
  idle : store.vault.running = OrderedMap.empty
  otherIdle : other.vault.running = OrderedMap.empty

theorem Alike.hasWriter {store other : Store} (alike : store.Alike other) :
    store.vault.hasWriter = false ∧ other.vault.hasWriter = false := by
  unfold Vault.hasWriter
  rw [alike.idle, alike.otherIdle]
  exact ⟨rfl, rfl⟩

end Store

/-- The reply to a call without the number of the commit. -/
def Reply.unnumbered : Reply → Except StoreError (Option Finding)
  | made answer => answer.map fun _ => none
  | found answer => answer.map some

namespace Store

/-- The store after several calls. -/
def serve (store : Store) (calls : List Call) : Store :=
  calls.foldl (fun store call => (store.turn call).after) store

variable {store other : Store} (alike : store.Alike other)

include alike

theorem Alike.change (requestor : String) (occasion : Occasion) (change : Change)
    (edit : Ledger → Except StoreError Ledger) :
    (store.change requestor occasion change edit).store.Alike
        (other.change requestor occasion change edit).store ∧
      (Reply.made (store.change requestor occasion change edit).answer).unnumbered =
        (Reply.made (other.change requestor occasion change edit).answer).unnumbered := by
  have counted : store.vault.counted.Alike other.vault.counted :=
    ⟨alike.vault.committed, alike.vault.path, alike.vault.disk, alike.vault.refusal⟩
  rw [change_of_idle alike.idle, change_of_idle alike.otherIdle, alike.vault.committed]
  cases edit other.vault.committed with
  | error reason =>
    exact ⟨⟨alike.shares.withVaults .., counted, alike.idle, alike.otherIdle⟩, rfl⟩
  | ok ledger =>
    obtain ⟨saved, sameEnd⟩ := counted.accept ledger.prune
    have idle := (store.vault.counted.accept_aside ledger.prune).1.trans alike.idle
    have otherIdle := (other.vault.counted.accept_aside ledger.prune).1.trans alike.otherIdle
    dsimp only
    generalize store.vault.counted.accept ledger.prune = accepted at saved sameEnd idle
    generalize other.vault.counted.accept ledger.prune = otherAccepted at saved sameEnd otherIdle
    obtain ⟨vault, failure⟩ := accepted
    obtain ⟨otherVault, otherFailure⟩ := otherAccepted
    obtain rfl : failure = otherFailure := sameEnd
    have shares := alike.shares.withVaults vault otherVault
    cases failure with
    | some reason => exact ⟨⟨shares, saved, idle, otherIdle⟩, rfl⟩
    | none =>
      exact ⟨⟨⟨shares.catalogue, shares.adminGroups, shares.groups⟩, saved, idle, otherIdle⟩, rfl⟩

theorem Alike.turn (call : Call) :
    (store.turn call).after.Alike (other.turn call).after ∧
      (store.turn call).reply.unnumbered = (other.turn call).reply.unnumbered := by
  cases call with
  | query query =>
    have same := ask_eq alike.shares alike.vault.committed alike.hasWriter.1 alike.hasWriter.2 query
    exact ⟨alike, congrArg (fun answer => (Reply.found answer).unnumbered) same⟩
  | mutation mutation requestor occasion =>
    simp only [Store.turn, Turn.ofOutcome]
    rcases mutation.perform_cases requestor occasion with ⟨reason, refused⟩ | changed
    · rw [refused, refused]
      exact ⟨alike, rfl⟩
    · rw [changed, changed, alike.shares.edit_eq]
      exact alike.change ..

theorem Alike.serve (calls : List Call) : (store.serve calls).Alike (other.serve calls) := by
  induction calls generalizing store other with
  | nil => exact alike
  | cons call rest inductionHypothesis => exact inductionHypothesis (alike.turn call).1

end Store

/-! ### Opening anew -/

namespace Store

/-- A store that can take the place of another: it finds the same, and further calls have the same
effect on its ledger. -/
structure Replaces (replacement store : Store) : Prop where
  /-- While a writing transaction is open in the other, that answers no query. -/
  queries : store.vault.hasWriter = false → ∀ query : Query,
    query.ask replacement = query.ask store
  /-- In any surroundings, further calls of which the same succeed leave the same ledger. -/
  mutations : ∀ {turns others : List Turn} {final last : Store},
    Run Vault.KeepsCommitted replacement turns final → Run Vault.KeepsCommitted store others last →
      turns.map Turn.call = others.map Turn.call →
      turns.map (fun turn => turn.commit?.isSome) = others.map (fun turn => turn.commit?.isSome) →
      final.vault.committed = last.vault.committed
  /-- When nothing else happens, the same calls do succeed. -/
  undisturbed : store.vault.running = OrderedMap.empty → store.vault.refusal = none →
    ∀ calls : List Call,
      (replacement.serve calls).vault.committed = (store.serve calls).vault.committed ∧
        ∀ call, ((replacement.serve calls).turn call).reply.unnumbered =
          ((store.serve calls).turn call).reply.unnumbered

/-- A store whose vault was just opened with the ledger of another and on the same disk takes its
place. -/
theorem replaces_of_opened {replacement store : Store}
    (shares : replacement.SharesRegistries store) {path : String} {patience : Nat}
    (saves : store.vault.path = some path)
    (opened : replacement.vault =
      { Vault.ofLedger store.vault.committed patience store.vault.disk with path := some path }) :
    replacement.Replaces store := by
  have committed : replacement.vault.committed = store.vault.committed := by rw [opened]; rfl
  have free : replacement.vault.hasWriter = false := by rw [opened]; rfl
  refine ⟨fun storeFree => ask_eq shares committed free storeFree,
    fun run otherRun => run.committed_eq otherRun shares committed, fun idle trusted calls => ?_⟩
  have alike : replacement.Alike store := by
    refine ⟨shares, ⟨committed, ?_, ?_, ?_⟩, ?_, idle⟩
    · rw [opened, saves]
    · rw [opened]; rfl
    · rw [opened, trusted]; rfl
    · rw [opened]; rfl
  have later := alike.serve calls
  exact ⟨later.vault.committed, fun call => (later.turn call).2⟩

end Store

end Entitlement
