/-
This file looks at stores whose vault nobody else uses. No transaction is left open between two
calls then, so every change gets one, and what comes of it is what its edit makes of the committed
ledger and whether that can be saved (`Store.change_of_idle`). The vault stays free, whatever
befalls its disk and whatever calls are made.
-/

import Entitlement.Proofs.Runs

namespace Entitlement

/-! ### One transaction in an idle vault -/

namespace OrderedMap

variable {Value : Type}

theorem insert_insert_empty (number : Nat) (value other : Value) :
    ((empty.insert number value).insert number other : OrderedMap Nat Value) =
      empty.insert number other := by
  refine OrderedMap.ext ?_
  simp [insert, empty, place, Std.ReflCmp.compare_self]

theorem erase_insert_empty (number : Nat) (value : Value) :
    ((empty.insert number value).erase number : OrderedMap Nat Value) = empty := by
  refine OrderedMap.ext ?_
  simp [erase, filter, insert, empty, place, Std.ReflCmp.compare_self]

end OrderedMap

/-- The vault after one more transaction has begun and ended. -/
def Vault.counted (vault : Vault) : Vault :=
  { vault with lastTransaction := vault.lastTransaction + 1 }

namespace Store

/-- What comes of a change when no transaction runs. -/
theorem change_of_idle {store : Store} (idle : store.vault.running = OrderedMap.empty)
    (requestor : String) (occasion : Occasion) (change : Change)
    (edit : Ledger → Except StoreError Ledger) :
    store.change requestor occasion change edit =
      match edit store.vault.committed with
      | .error reason => { store with vault := store.vault.counted }.refuse reason
      | .ok ledger =>
        match store.vault.counted.accept ledger.prune with
        | (vault, some reason) => { store with vault := vault }.refuse reason
        | (vault, none) => { store with vault := vault }.conclude requestor occasion change := by
  have free : store.vault.isIdle = true := by rw [Vault.isIdle, idle]; rfl
  have ended : ∀ transaction : Transaction,
      { store.vault.counted with
        running := (store.vault.running.insert (store.vault.lastTransaction + 1)
          transaction).erase (store.vault.lastTransaction + 1) } = store.vault.counted := by
    intro transaction
    rw [idle, OrderedMap.erase_insert_empty, ← idle]
    rfl
  rw [Store.change, Vault.beginWrite, if_pos free]
  dsimp only [Vault.start]
  cases edit store.vault.committed with
  | error reason =>
    exact congrArg (fun vault => { store with vault := vault }.refuse reason) (ended _)
  | ok ledger =>
    have saved : ((store.vault.start (.writing store.vault.committed)).2.edit
        (store.vault.lastTransaction + 1) ledger.prune).commit (store.vault.lastTransaction + 1) =
          store.vault.counted.accept ledger.prune := by
      simp only [Vault.start, Vault.edit, OrderedMap.get?_insert_self, Vault.commit]
      rw [idle, OrderedMap.insert_insert_empty, ← idle]
      exact congrArg (fun vault : Vault => vault.accept ledger.prune) (ended _)
    dsimp only
    rw [← saved]
    rfl

end Store

/-! ### Whole runs -/

/-- A vault in which no transaction runs. If commits fail by decree, it is because the store is
unavailable. -/
structure Vault.IsCalm (vault : Vault) : Prop where
  idle : vault.running = OrderedMap.empty
  refusal : ∀ reason, vault.refusal = some reason → reason.isServerFault = true

/-- What befalls a vault that nobody but its store uses: its disk changes, and commits come to fail
for a while because the store is unavailable. -/
def Vault.Befalls (vault next : Vault) : Prop :=
  next.committed = vault.committed ∧ next.running = vault.running ∧
    ∀ reason, next.refusal = some reason → reason.isServerFault = true

namespace Vault

/-- Saving a ledger concerns no transaction. -/
theorem accept_aside (vault : Vault) (ledger : Ledger) :
    (vault.accept ledger).1.running = vault.running ∧
      (vault.accept ledger).1.refusal = vault.refusal ∧
      (vault.accept ledger).1.path = vault.path := by
  unfold accept
  split
  · exact ⟨rfl, rfl, rfl⟩
  · split
    · exact ⟨rfl, rfl, rfl⟩
    · split
      · exact ⟨rfl, rfl, rfl⟩
      · exact ⟨rfl, rfl, rfl⟩

theorem IsCalm.accept {vault : Vault} (calm : vault.IsCalm) (ledger : Ledger) :
    (vault.accept ledger).1.IsCalm := by
  obtain ⟨running, refusal, -⟩ := vault.accept_aside ledger
  exact ⟨running.trans calm.idle, fun reason refused => calm.refusal reason (refusal ▸ refused)⟩

theorem IsCalm.befalls {vault next : Vault} (calm : vault.IsCalm) (moved : vault.Befalls next) :
    next.IsCalm :=
  ⟨moved.2.1.trans calm.idle, moved.2.2⟩

end Vault

theorem Store.isCalm_change {store : Store} (calm : store.vault.IsCalm) (requestor : String)
    (occasion : Occasion) (change : Change) (edit : Ledger → Except StoreError Ledger) :
    (store.change requestor occasion change edit).store.vault.IsCalm := by
  have counted : store.vault.counted.IsCalm := ⟨calm.idle, calm.refusal⟩
  rw [change_of_idle calm.idle]
  split
  · exact counted
  · next ledger _ =>
    have accepted := counted.accept ledger.prune
    split
    · next saved => rwa [saved] at accepted
    · next saved => rwa [saved] at accepted

/-- No call leaves a transaction open. -/
theorem Store.isCalm_turn {store : Store} (calm : store.vault.IsCalm) (call : Call) :
    (store.turn call).after.vault.IsCalm := by
  cases call with
  | query query => exact calm
  | mutation mutation requestor occasion =>
    show (mutation.perform store requestor occasion).store.vault.IsCalm
    rcases mutation.perform_cases requestor occasion with ⟨reason, refused⟩ | changed
    · rw [refused]
      exact calm
    · rw [changed]
      exact isCalm_change calm ..

theorem Run.isCalm {store final : Store} {turns : List Turn}
    (run : Run Vault.Befalls store turns final) (calm : store.vault.IsCalm) :
    final.vault.IsCalm := by
  induction run with
  | nil => exact calm
  | @cons store final turns vault call moved _ inductionHypothesis =>
    refine inductionHypothesis (Store.isCalm_turn ?_ call)
    exact calm.befalls moved

theorem Run.mono {world other : Vault → Vault → Prop} {store final : Store} {turns : List Turn}
    (within : ∀ vault next, world vault next → other vault next)
    (run : Run world store turns final) : Run other store turns final := by
  induction run with
  | nil store => exact .nil store
  | cons vault call moved _ inductionHypothesis =>
    exact .cons vault call (within _ _ moved) inductionHypothesis

/-- No call changes what a store goes by: its catalogue, its admin groups and its directory. -/
theorem Store.settings_turn (store : Store) (call : Call) :
    (store.turn call).after.catalogue = store.catalogue ∧
      (store.turn call).after.adminGroups = store.adminGroups ∧
      (store.turn call).after.groups = store.groups := by
  cases call with
  | query query => exact ⟨rfl, rfl, rfl⟩
  | mutation mutation requestor occasion =>
    have result := store.performed mutation requestor occasion
    simp only [Store.turn]
    generalize mutation.perform store requestor occasion = outcome at result
    cases result with
    | refused => exact ⟨rfl, rfl, rfl⟩
    | committed => exact ⟨rfl, rfl, rfl⟩

theorem Run.settings {world : Vault → Vault → Prop} {store final : Store} {turns : List Turn}
    (run : Run world store turns final) :
    final.catalogue = store.catalogue ∧ final.adminGroups = store.adminGroups ∧
      final.groups = store.groups := by
  induction run with
  | nil => exact ⟨rfl, rfl, rfl⟩
  | @cons store final turns vault call _ _ inductionHypothesis =>
    obtain ⟨catalogue, adminGroups, groups⟩ :=
      Store.settings_turn { store with vault := vault } call
    exact ⟨inductionHypothesis.1.trans catalogue, inductionHypothesis.2.1.trans adminGroups,
      inductionHypothesis.2.2.trans groups⟩

end Entitlement
