/-
This file proves that the events of a store tell all that its ledger is made of. An event carries a
change whose names are in their normal form already, and the operations normalize names again; it
carries the privilege that the caller handed in and not the key of a record; and calls that were
refused publish nothing. So the events can be read and the changes applied to an empty ledger, each
as the operation that it is, and they make the committed ledger again, up to the times at which rows
came into being.
-/

import Entitlement.Proofs.ChangeText
import Entitlement.Proofs.Undated

namespace Entitlement

/-! ### One event -/

/-- The ledger after the change that an event tells of has been made to it and committed, at the
time that the clock gives. There is none if the payload cannot be read or the change fails. -/
def Ledger.replay (catalogue : Catalogue) (clock : Event → Timestamp) (ledger : Ledger)
    (event : Event) : Option Ledger := do
  let change ← Change.ofJson? event.payload
  let operation := change.operation event.requestor (clock event)
  let next ← (operation.apply catalogue ledger).result.toOption
  return next.prune

namespace Mutation

theorem normal_of_change {mutation : Mutation} {privilege : Privilege}
    (about : mutation.change.privilege? = some privilege) : privilege.Normal := by
  have made : ∀ built : BuiltPrivilege, built.val.Normal := by
    intro built
    obtain ⟨draft, done⟩ := built.property
    exact Privilege.normal_of_build done
  cases mutation with
  | grant role built => exact Option.some.inj about ▸ made built
  | revoke role built => exact Option.some.inj about ▸ made built
  | drop built => exact Option.some.inj about ▸ made built
  | _ => cases about

theorem ofJson?_payload (mutation : Mutation) (commit : Commit) (requestor : String)
    (occasion : Occasion) :
    Change.ofJson? (mutation.change.toEvent commit requestor occasion).payload =
      some mutation.change := by
  show Change.ofJson? mutation.change.toJson.canonical = _
  rw [Change.ofJson?_canonical, Change.ofJson?_toJson _ fun _ => normal_of_change]

end Mutation

/-- What the store has done to its ledger, the event of it does to a ledger that differs in times
alone. -/
theorem Ledger.replay_toEvent {catalogue : Catalogue} {mutation : Mutation} {requestor : String}
    {occasion : Occasion} {ledger copy next : Ledger} (same : copy.undated = ledger.undated)
    (done : ((mutation.change.operation requestor occasion.now).apply catalogue ledger).result =
      .ok next) (clock : Event → Timestamp) (commit : Commit) :
    ∃ copyNext, copy.replay catalogue clock (mutation.change.toEvent commit requestor occasion) =
        some copyNext ∧ copyNext.undated = next.prune.undated := by
  let event := mutation.change.toEvent commit requestor occasion
  -- The clock may give another time than the one at which the store made the change.
  have times : (mutation.change.operation requestor (clock event)).undated =
      (mutation.change.operation requestor occasion.now).undated := by
    cases mutation <;> rfl
  obtain ⟨other, applied, alike⟩ := apply_of_undated_eq same times done
  refine ⟨other.prune, ?_, ?_⟩
  · refine Option.bind_eq_some_iff.2 ⟨mutation.change, mutation.ofJson?_payload .., ?_⟩
    refine Option.bind_eq_some_iff.2 ⟨other, ?_, rfl⟩
    exact congrArg Except.toOption applied
  · rw [undated_prune, undated_prune, alike]

/-! ### All events of a run -/

/-- The events of a run tell of its commits. -/
theorem Run.told {world : Vault → Vault → Prop} {store final : Store} {turns : List Turn}
    (run : Run world store turns final) :
    (Turn.events turns).map Event.commit = Turn.commits turns := by
  induction run with
  | nil => rfl
  | @cons store final turns vault call _ _ inductionHypothesis =>
    obtain ⟨-, -, ⟨none, silent, -⟩ | ⟨event, commit, announced, -⟩⟩ :=
      Store.turn_cases { store with vault := vault } call
    · rw [Turn.commits, Turn.events, List.filterMap_cons_none none,
        List.filterMap_cons_none silent]
      exact inductionHypothesis
    · rw [Turn.commits, Turn.events, List.filterMap_cons_some commit,
        List.filterMap_cons_some announced, List.map_cons]
      exact congrArg _ inductionHypothesis

/-- The events of a run make of a ledger what the run makes of a committed one that differs in
times alone. -/
theorem Run.exists_replay {store final : Store} {turns : List Turn}
    (run : Run Vault.KeepsCommitted store turns final) {copy : Ledger}
    (same : copy.undated = store.vault.committed.undated) (clock : Event → Timestamp) :
    ∃ ledger, (Turn.events turns).foldlM (Ledger.replay store.catalogue clock) copy =
        some ledger ∧ ledger.undated = final.vault.committed.undated := by
  induction run generalizing copy with
  | nil => exact ⟨copy, rfl, same⟩
  | @cons store final turns vault call moved _ inductionHypothesis =>
    have view : ({ store with vault := vault } : Store).vault.committed =
      store.vault.committed := moved
    obtain ⟨catalogue, ⟨silent, kept⟩ | ⟨mutation, commit, requestor, occasion, next, announced,
      done, committed⟩⟩ := Store.committed_turn { store with vault := vault } call
    · rw [Turn.events, List.filterMap_cons_none silent]
      rw [catalogue, kept, view] at inductionHypothesis
      exact inductionHypothesis same
    · rw [view] at done
      obtain ⟨copyNext, replayed, alike⟩ := Ledger.replay_toEvent same done clock commit
      rw [Turn.events, List.filterMap_cons_some announced, List.foldlM_cons, replayed]
      rw [catalogue, committed] at inductionHypothesis
      exact inductionHypothesis alike

/-! ### Events in the order of their numbers -/

/-- The events in the order in which their commits were made. -/
def Event.inOrder (events : List Event) : List Event :=
  events.mergeSort fun first second => first.commit.sequence ≤ second.commit.sequence

/-- Events whose numbers go up are what any arrangement of them is in order. -/
theorem Event.inOrder_of_perm {events received : List Event} (permuted : received.Perm events)
    (increasing : events.Pairwise fun first second =>
      first.commit.sequence < second.commit.sequence) : inOrder received = events := by
  have arranged : (inOrder received).Perm events := (List.mergeSort_perm ..).trans permuted
  have sorted : (inOrder received).Pairwise fun first second =>
      first.commit.sequence ≤ second.commit.sequence := by
    refine (List.pairwise_mergeSort ?_ ?_ received).imp of_decide_eq_true
    · simpa using fun _ _ _ => Nat.le_trans
    · simpa using fun _ _ => Nat.le_total ..
  have distinct : (events.map fun event => event.commit.sequence).Nodup :=
    List.pairwise_map.2 (increasing.imp Nat.ne_of_lt)
  refine arranged.eq_of_pairwise ?_ sorted (increasing.imp Nat.le_of_lt)
  intro first second isFirst isSecond before after
  exact List.inj_on_of_nodup_map distinct (arranged.subset isFirst) isSecond
    (Nat.le_antisymm before after)

/-! ### Whole runs -/

/-- In every run of a store that begins with an empty ledger, the events make the committed ledger
again. However they are arranged when they arrive: in the order of their numbers they can be read
and their changes applied to an empty ledger, each with success and at any time, and the ledger
that this ends with is the committed one up to the times of its rows. On a bus, these events are
what is published, and whoever listens has them to read. -/
theorem run_replayed {store final : Store} {turns : List Turn}
    (fresh : store.vault.committed = Ledger.empty)
    (run : Run Vault.KeepsCommitted store turns final) :
    (∀ (clock : Event → Timestamp) (received : List Event),
        received.Perm (Turn.events turns) →
        ∃ ledger, (Event.inOrder received).foldlM (Ledger.replay store.catalogue clock)
            Ledger.empty = some ledger ∧
          ledger.undated = final.vault.committed.undated) ∧
      ∀ bus, store.announcer = .onBus bus →
        final.announcer = .onBus (bus.publishAll (Turn.events turns)) ∧
          bus.Carries (Turn.events turns) (bus.publishAll (Turn.events turns)) := by
  refine ⟨fun clock received permuted => ?_, fun bus listening =>
    ⟨(run.published listening).2, bus.carries_publishAll _⟩⟩
  have numbers : (Turn.events turns).map (fun event => event.commit.sequence) =
      List.range' (store.sequence + 1) (Turn.commits turns).length := by
    rw [← run.numbered.1, ← run.told, List.map_map]
    rfl
  have increasing : ((Turn.events turns).map fun event => event.commit.sequence).Pairwise
      (· < ·) := by
    rw [numbers]
    exact List.pairwise_lt_range'
  rw [Event.inOrder_of_perm permuted (List.pairwise_map.1 increasing)]
  exact run.exists_replay (congrArg Ledger.undated fresh.symm) clock

/-- A run in which one call of five is refused. Its four events, received in the reverse order, make
the ledger with the one record that is left, the third. -/
theorem run_replayed_library :
    ∃ (turns : List Turn) (final : Store),
      Run Vault.KeepsCommitted { libraryStore with announcer := .onBus default } turns final ∧
        turns.map (fun turn => turn.announced.map Event.topic) =
          [some "role.created", some "privilege.granted", some "privilege.revoked", none,
            some "privilege.renamed"] ∧
        final.vault.committed.records.entries.map (fun entry =>
          (entry.1, entry.2.key.action, entry.2.key.path.slots.used)) = [(3, "lend", ["b"])] ∧
        ∃ ledger, (Event.inOrder (Turn.events turns).reverse).foldlM
            (Ledger.replay libraryStore.catalogue fun _ => default) Ledger.empty = some ledger ∧
          ledger.undated = final.vault.committed.undated := by
  let noon : Timestamp := { (default : Timestamp) with hour := 12, valid := by decide }
  let occasion : Occasion := ⟨noon, default⟩
  let all : BuiltPrivilege := ⟨libraryPrivilege "all", (libraryPrivilege "all").toDraft, rfl⟩
  let read : BuiltPrivilege := ⟨libraryPrivilege "read", (libraryPrivilege "read").toDraft, rfl⟩
  let start : Store := { libraryStore with announcer := .onBus default }
  let first := start.turn (.mutation (.createRole " Clerks ") "olga" occasion)
  let second := first.after.turn (.mutation (.grant "Clerks" all) "olga" occasion)
  let third := second.after.turn (.mutation (.revoke "CLERKS" read) "olga" occasion)
  let fourth := third.after.turn (.mutation (.grant "clerks" read) "eve" occasion)
  let fifth := fourth.after.turn
    (.mutation (.rename "Library" " LENDING" [⟨"shelf", "A"⟩] [⟨"Shelf", "B"⟩]) "eve" occasion)
  have run : Run Vault.KeepsCommitted start [first, second, third, fourth, fifth] fifth.after :=
    .consSame _ (.consSame _ (.consSame _ (.consSame _ (.consSame _ (.nil _)))))
  obtain ⟨replays, -⟩ := run_replayed rfl run
  refine ⟨[first, second, third, fourth, fifth], fifth.after, run, ?_, ?_,
    replays (fun _ => default) _ (List.reverse_perm _)⟩
  · decide +kernel
  · decide +kernel

end Entitlement
