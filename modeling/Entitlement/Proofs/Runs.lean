/-
This file proves that a store keeps its ledger, its count of commits and its announcements in
step. A call that changes the store either commits -- then it gets the next number, and exactly
one event with that number is published -- or it is refused, and then nothing that others can
see has changed, no matter how far the call had come.

A call is refused at one of three points: before the ledger is touched, within an edit of many
records, or when the ledger is saved. All three come to the same because an edit works on a copy
and the copy takes the place of the committed ledger only after it has been saved.
`Store.performed` says this once for all calls, and the statements about whole runs follow from
it call by call.
-/

import Entitlement.Proofs.Lagging
import Entitlement.Proofs.Ordered
import Entitlement.Store.Query

namespace Entitlement

/-! ### Calls -/

/-- A privilege that is made from a draft, as all privileges that callers have are. -/
abbrev BuiltPrivilege : Type :=
  {privilege : Privilege // ∃ draft : PrivilegeDraft, draft.build = .ok privilege}

/-- A change that a caller asks for. -/
inductive Mutation where
  | createRole (role : String)
  | dropRole (role : String)
  | addGroups (role : String) (groups : List String)
  | removeGroups (role : String) (groups : List String)
  | grant (role : String) (privilege : BuiltPrivilege)
  | revoke (role : String) (privilege : BuiltPrivilege)
  | drop (privilege : BuiltPrivilege)
  | rename (component service : String) (old new : List Step)

namespace Mutation

/-- The topic under which the change is made known. -/
def topic : Mutation → String
  | createRole _ => "role.created"
  | dropRole _ => "role.dropped"
  | addGroups .. => "group.added"
  | removeGroups .. => "group.removed"
  | grant .. => "privilege.granted"
  | revoke .. => "privilege.revoked"
  | drop _ => "privilege.dropped"
  | rename .. => "privilege.renamed"

/-- The change as it is made known. -/
def change : Mutation → Change
  | createRole role => .roleCreated (Text.normalize role)
  | dropRole role => .roleDropped (Text.normalize role)
  | addGroups role groups => .groupsAdded (Text.normalize role) (normalizeAll groups).elements
  | removeGroups role groups =>
    .groupsRemoved (Text.normalize role) (normalizeAll groups).elements
  | grant role privilege => .privilegeGranted (Text.normalize role) privilege
  | revoke role privilege => .privilegeRevoked (Text.normalize role) privilege
  | drop privilege => .privilegeDropped privilege
  | rename component service old new =>
    .privilegeRenamed (Text.normalize component) (Text.normalize service)
      (old.map Step.lowered) (new.map Step.lowered)

theorem topic_change (mutation : Mutation) : mutation.change.topic = mutation.topic := by
  cases mutation <;> rfl

/-- What the change does to the ledger, on behalf of the requestor. -/
def edit (mutation : Mutation) (store : Store) (requestor : String) (now : Timestamp) :
    Ledger → Except StoreError Ledger :=
  match mutation with
  | createRole role => fun ledger => ledger.createRole (Text.normalize role) now
  | dropRole role => fun ledger => ledger.dropRole (Text.normalize role)
  | addGroups role groups => fun ledger =>
    ledger.addGroups (Text.normalize role) (normalizeAll groups).elements now
  | removeGroups role groups => fun ledger =>
    ledger.removeGroups (Text.normalize role) (normalizeAll groups).elements
  | grant role privilege =>
    store.delegated (Text.normalize role) privilege requestor fun ledger =>
      (ledger.grant store.catalogue (Text.normalize role) privilege requestor now).result
  | revoke role privilege =>
    store.delegated (Text.normalize role) privilege requestor fun ledger =>
      (ledger.revoke store.catalogue (Text.normalize role) privilege requestor now).result
  | drop privilege => fun ledger =>
    (ledger.drop store.catalogue privilege requestor now).result
  | rename component service old new => fun ledger =>
    (ledger.rename store.catalogue component service old new now).result

/-- The call of the store that makes the change. -/
def perform (mutation : Mutation) (store : Store) (requestor : String) (occasion : Occasion) :
    Outcome :=
  match mutation with
  | createRole role => store.createRole role requestor occasion
  | dropRole role => store.dropRole role requestor occasion
  | addGroups role groups => store.addGroups role groups requestor occasion
  | removeGroups role groups => store.removeGroups role groups requestor occasion
  | grant role privilege => store.grant role privilege requestor occasion
  | revoke role privilege => store.revoke role privilege requestor occasion
  | drop privilege => store.drop privilege requestor occasion
  | rename component service old new => store.rename component service old new requestor occasion

/-- A call is one transaction, or a refusal for want of a grantor before there is one. Which of
them it is does not depend on the store. -/
theorem perform_cases (mutation : Mutation) (requestor : String) (occasion : Occasion) :
    (∃ reason, ∀ store, mutation.perform store requestor occasion = store.refuse reason) ∨
      ∀ store, mutation.perform store requestor occasion =
        store.change requestor occasion mutation.change
          (mutation.edit store requestor occasion.now) := by
  cases mutation with
  | grant role privilege =>
    simp only [perform, Store.grant]
    split
    · exact Or.inl ⟨_, fun _ => rfl⟩
    · exact Or.inr fun _ => rfl
  | revoke role privilege =>
    simp only [perform, Store.revoke]
    split
    · exact Or.inl ⟨_, fun _ => rfl⟩
    · exact Or.inr fun _ => rfl
  | _ => exact Or.inr fun _ => rfl

end Mutation

/-- Something that a caller asks about. -/
inductive Query where
  | rolesOfGroups (groups : List String)
  | groupsOfRoles (roles : List String)
  | privilegesOfRoles (roles : List String)
  | privilegesOfService (component service : String) (roles groups : List String)
      (steps : List Step)

/-- What a query finds. -/
inductive Finding where
  | names (names : OrderedSet String)
  | privileges (privileges : List Privilege)

def Query.ask (query : Query) (store : Store) : Except StoreError Finding :=
  match query with
  | rolesOfGroups groups => (store.rolesOfGroups groups).map .names
  | groupsOfRoles roles => (store.groupsOfRoles roles).map .names
  | privilegesOfRoles roles => (store.privilegesOfRoles roles).map .privileges
  | privilegesOfService component service roles groups steps =>
    (store.privilegesOfService component service roles groups steps).map .privileges

inductive Call where
  | mutation (mutation : Mutation) (requestor : String) (occasion : Occasion)
  | query (query : Query)

/-- The answer to a call. -/
inductive Reply where
  | made (answer : Except StoreError Commit)
  | found (answer : Except StoreError Finding)

/-! ### Announcements -/

/-- An announcement as it should be. On a bus one more event is published, and it comes to the
handlers and to the subscribers to whom it belongs by the history of the bus. -/
def Announcer.Tells (announcer : Announcer) (event : Event) (next : Announcer) : Prop :=
  ∀ bus, announcer = .onBus bus → ∃ after, next = .onBus after ∧
    after.stats.published = bus.stats.published + 1 ∧
    ∀ past, Bus.Sound past bus → ∃ reached called,
      Bus.Publication past bus event reached called after

theorem Announcer.tells_announce (announcer : Announcer) (event : Event) :
    announcer.Tells event (announcer.announce event) := by
  rintro bus rfl
  exact ⟨_, rfl, rfl, fun past sound => ⟨_, _, sound.publication event⟩⟩

/-! ### Runs -/

/-- One call, with the store before and after it. -/
structure Turn where
  before : Store
  call : Call
  reply : Reply
  announced : Option Event
  after : Store

namespace Turn

/-- The commit that the call made, if it made one. -/
def commit? (turn : Turn) : Option Commit :=
  match turn.reply with
  | .made (.ok commit) => some commit
  | _ => none

/-- The commits that were made in several turns, in order. -/
def commits (turns : List Turn) : List Commit :=
  turns.filterMap commit?

/-- The events that were published in several turns, in order. -/
def events (turns : List Turn) : List Event :=
  turns.filterMap announced

/-- A turn in which ledger, count and announcements stay in step. A change that is made gets the
number after the last one, and the one event that is published tells of this commit, of who asked
for it and of the kind of change. A change that is refused, and a query, leave the committed
ledger, the count and the announcements as they were. -/
def InStep (turn : Turn) : Prop :=
  match turn.call, turn.reply with
  | .mutation mutation requestor _, .made (.ok commit) =>
    commit = ⟨turn.before.server, turn.before.sequence + 1⟩ ∧
      turn.after.sequence = commit.sequence ∧
      ∃ event, turn.announced = some event ∧ event.commit = commit ∧
        event.requestor = requestor ∧ event.topic = mutation.topic ∧
        turn.after.announcer = turn.before.announcer.announce event ∧
        turn.before.announcer.Tells event turn.after.announcer
  | _, _ =>
    turn.announced = none ∧ turn.after.vault.committed = turn.before.vault.committed ∧
      turn.after.sequence = turn.before.sequence ∧
      turn.after.announcer = turn.before.announcer

end Turn

/-- The turn of a call that changes the store, when it comes to the outcome. -/
def Turn.ofOutcome (store : Store) (mutation : Mutation) (requestor : String)
    (occasion : Occasion) (outcome : Outcome) : Turn where
  before := store
  call := .mutation mutation requestor occasion
  reply := .made outcome.answer
  announced := outcome.announced
  after := outcome.store

/-- The turn of a store that is called. -/
def Store.turn (store : Store) (call : Call) : Turn :=
  match call with
  | .mutation mutation requestor occasion =>
    .ofOutcome store mutation requestor occasion (mutation.perform store requestor occasion)
  | .query query => ⟨store, call, .found (query.ask store), none, store⟩

/-- One call of a store after the other. Before each of them the vault may change in the ways
that the relation `world` allows. -/
inductive Run (world : Vault → Vault → Prop) : Store → List Turn → Store → Prop where
  | nil (store : Store) : Run world store [] store
  | cons {store final : Store} {turns : List Turn} (vault : Vault) (call : Call)
      (moved : world store.vault vault)
      (rest : Run world ({ store with vault := vault }.turn call).after turns final) :
      Run world store ({ store with vault := vault }.turn call :: turns) final

/-- All that may happen to a vault apart from commits: its disk changes, files come and go or
cannot be written, commits are refused for a while, others begin and end transactions. -/
def Vault.KeepsCommitted (vault next : Vault) : Prop :=
  next.committed = vault.committed

/-- A call before which nothing happens to the vault. -/
theorem Run.consSame {store final : Store} {turns : List Turn} (call : Call)
    (rest : Run Vault.KeepsCommitted (store.turn call).after turns final) :
    Run Vault.KeepsCommitted store (store.turn call :: turns) final :=
  .cons store.vault call rfl rest

/-! ### One transaction -/

namespace Vault

/-- Saving a ledger makes it the committed one, or fails and leaves the committed one as it is. -/
theorem accept_cases (vault : Vault) (ledger : Ledger) :
    (∃ next, vault.accept ledger = (next, none) ∧ next.committed = ledger) ∨
      ∃ next reason, vault.accept ledger = (next, some reason) ∧
        next.committed = vault.committed := by
  unfold accept
  split
  · exact Or.inr ⟨vault, _, rfl, rfl⟩
  · split
    · exact Or.inl ⟨_, rfl, rfl⟩
    · split
      · exact Or.inr ⟨_, _, rfl, rfl⟩
      · exact Or.inl ⟨_, rfl, rfl⟩

/-- The vault with other transactions. -/
def withTransactions (vault : Vault) (running : OrderedMap Nat Transaction) (last : Nat) : Vault :=
  { vault with running := running, lastTransaction := last }

/-- A writing transaction begins with the committed ledger. It can be given up, or its commit saves
its draft, and either concerns no more of the vault than that. -/
theorem commit_edit {vault opened : Vault} {number : Nat}
    (began : vault.beginWrite = .ok (number, opened)) :
    opened.committed = vault.committed ∧
      (∃ running last, opened.discard number = vault.withTransactions running last) ∧
      ∀ draft : Ledger, ∃ running last, (opened.edit number draft).commit number =
        (vault.withTransactions running last).accept draft := by
  unfold beginWrite at began
  split at began
  · obtain ⟨rfl, rfl⟩ := Prod.mk.inj (Except.ok.inj began)
    refine ⟨rfl, ⟨_, _, rfl⟩, fun draft => ?_⟩
    simp only [edit, OrderedMap.get?_insert_self, commit]
    exact ⟨_, _, rfl⟩
  · cases began

end Vault

namespace Store

/-- What comes of a change: nothing but the end of a transaction, or a try to save what the edit
makes of the committed ledger. -/
theorem change_cases (store : Store) (requestor : String) (occasion : Occasion) (change : Change)
    (edit : Ledger → Except StoreError Ledger) : ∃ running last,
    (∃ reason, store.change requestor occasion change edit =
      { store with vault := store.vault.withTransactions running last }.refuse reason) ∨
    ∃ ledger, edit store.vault.committed = .ok ledger ∧
      store.change requestor occasion change edit =
        match (store.vault.withTransactions running last).accept ledger.prune with
        | (vault, some reason) => { store with vault := vault }.refuse reason
        | (vault, none) => { store with vault := vault }.conclude requestor occasion change := by
  rw [Store.change]
  cases began : store.vault.beginWrite with
  | error reason => exact ⟨store.vault.running, store.vault.lastTransaction, Or.inl ⟨reason, rfl⟩⟩
  | ok opening =>
    obtain ⟨number, opened⟩ := opening
    obtain ⟨view, ⟨running, last, ended⟩, commits⟩ := Vault.commit_edit began
    simp only [view]
    cases edited : edit store.vault.committed with
    | error reason =>
      simp only [ended]
      exact ⟨running, last, Or.inl ⟨reason, rfl⟩⟩
    | ok ledger =>
      obtain ⟨running, last, commit⟩ := commits ledger.prune
      simp only [commit]
      exact ⟨running, last, Or.inr ⟨ledger, rfl, rfl⟩⟩

/-- What can come of a call that changes the store: it is refused and the committed ledger stays,
or the ledger that the edit gives is committed without the records that nobody holds. -/
inductive Performed (store : Store) (mutation : Mutation) (requestor : String)
    (occasion : Occasion) : Outcome → Prop where
  | refused (vault : Vault) (reason : StoreError)
      (kept : vault.committed = store.vault.committed) :
      Performed store mutation requestor occasion ({ store with vault := vault }.refuse reason)
  | committed (vault : Vault) (ledger : Ledger)
      (edited : mutation.edit store requestor occasion.now store.vault.committed = .ok ledger)
      (saved : vault.committed = ledger.prune) :
      Performed store mutation requestor occasion
        ({ store with vault := vault }.conclude requestor occasion mutation.change)

theorem performed (store : Store) (mutation : Mutation) (requestor : String)
    (occasion : Occasion) :
    Performed store mutation requestor occasion
      (mutation.perform store requestor occasion) := by
  rcases mutation.perform_cases requestor occasion with ⟨reason, refused⟩ | changed
  · rw [refused]
    exact .refused store.vault reason rfl
  rw [changed]
  obtain ⟨running, last, ⟨reason, ended⟩ | ⟨ledger, edited, saves⟩⟩ :=
    store.change_cases requestor occasion mutation.change
      (mutation.edit store requestor occasion.now)
  · rw [ended]
    exact .refused _ reason rfl
  · rw [saves]
    rcases (store.vault.withTransactions running last).accept_cases ledger.prune with
      ⟨next, accepted, saved⟩ | ⟨next, reason, accepted, stays⟩
    · rw [accepted]
      exact .committed next ledger edited saved
    · rw [accepted]
      exact .refused next reason stays

end Store

/-! ### Whole runs -/

/-- What a turn does to what a run counts: it makes no commit and leaves the count and the
announcements, or it makes the next commit and publishes the event of that commit. -/
theorem Store.turn_cases (store : Store) (call : Call) :
    (store.turn call).InStep ∧ (store.turn call).after.server = store.server ∧
      (((store.turn call).commit? = none ∧ (store.turn call).announced = none ∧
          (store.turn call).after.sequence = store.sequence ∧
          (store.turn call).after.announcer = store.announcer) ∨
        ∃ event, (store.turn call).commit? = some event.commit ∧
          (store.turn call).announced = some event ∧
          event.commit.sequence = store.sequence + 1 ∧
          (store.turn call).after.sequence = store.sequence + 1 ∧
          (store.turn call).after.announcer = store.announcer.announce event) := by
  cases call with
  | query query => exact ⟨⟨rfl, rfl, rfl, rfl⟩, rfl, Or.inl ⟨rfl, rfl, rfl, rfl⟩⟩
  | mutation mutation requestor occasion =>
    have result := store.performed mutation requestor occasion
    simp only [Store.turn]
    generalize mutation.perform store requestor occasion = outcome at result
    cases result with
    | refused vault reason kept =>
      exact ⟨⟨rfl, kept, rfl, rfl⟩, rfl, Or.inl ⟨rfl, rfl, rfl, rfl⟩⟩
    | committed vault ledger edited saved =>
      exact ⟨⟨rfl, rfl, _, rfl, rfl, rfl, mutation.topic_change, rfl,
        store.announcer.tells_announce _⟩, rfl,
        Or.inr ⟨_, rfl, rfl, rfl, rfl, rfl⟩⟩

theorem Run.inStep {world : Vault → Vault → Prop} {store final : Store} {turns : List Turn}
    (run : Run world store turns final) : ∀ turn ∈ turns, turn.InStep := by
  induction run with
  | nil => exact fun _ member => absurd member List.not_mem_nil
  | cons vault call _ _ inductionHypothesis =>
    intro turn member
    rcases List.mem_cons.1 member with rfl | later
    · exact (Store.turn_cases _ call).1
    · exact inductionHypothesis turn later

/-- The commits of a run are numbered without a gap from the number after the last one. -/
theorem Run.numbered {world : Vault → Vault → Prop} {store final : Store} {turns : List Turn}
    (run : Run world store turns final) :
    (Turn.commits turns).map Commit.sequence =
        List.range' (store.sequence + 1) (Turn.commits turns).length ∧
      final.sequence = store.sequence + (Turn.commits turns).length := by
  induction run with
  | nil => exact ⟨rfl, rfl⟩
  | @cons store final turns vault call _ _ inductionHypothesis =>
    obtain ⟨numbers, last⟩ := inductionHypothesis
    obtain ⟨-, -, ⟨none, -, sequence, -⟩ | ⟨event, commit, -, number, sequence, -⟩⟩ :=
      Store.turn_cases { store with vault := vault } call
    · rw [Turn.commits, List.filterMap_cons_none none]
      rw [sequence] at numbers last
      exact ⟨numbers, last⟩
    · rw [Turn.commits, List.filterMap_cons_some commit]
      rw [sequence] at numbers last
      rw [List.map_cons, List.length_cons, List.range'_succ, number]
      refine ⟨congrArg _ numbers, last.trans ?_⟩
      show store.sequence + 1 + _ = store.sequence + (_ + 1)
      rw [Nat.add_right_comm, Nat.add_assoc]
      rfl

/-- On a bus, the events of a run are published one after the other, one for each commit. -/
theorem Run.published {world : Vault → Vault → Prop} {store final : Store} {turns : List Turn}
    (run : Run world store turns final) {bus : Bus} (listening : store.announcer = .onBus bus) :
    (Turn.events turns).map Event.commit = Turn.commits turns ∧
      final.announcer = .onBus (bus.publishAll (Turn.events turns)) := by
  induction run generalizing bus with
  | nil => exact ⟨rfl, listening⟩
  | @cons store final turns vault call _ _ inductionHypothesis =>
    obtain ⟨-, -, ⟨none, silent, -, announcer⟩ | ⟨event, commit, announced, -, -, announcer⟩⟩ :=
      Store.turn_cases { store with vault := vault } call
    · rw [Turn.commits, Turn.events, List.filterMap_cons_none none,
        List.filterMap_cons_none silent]
      exact inductionHypothesis (announcer.trans listening)
    · have onBus : ({ store with vault := vault }.turn call).after.announcer =
          .onBus (bus.publish event).2 := by
        rw [announcer, show ({ store with vault := vault } : Store).announcer = .onBus bus from
          listening]
        rfl
      obtain ⟨told, end_⟩ := inductionHypothesis onBus
      rw [Turn.commits, Turn.events, List.filterMap_cons_some commit,
        List.filterMap_cons_some announced, List.map_cons]
      exact ⟨congrArg _ told, end_⟩

/-- A store that was just opened and announces its changes on a bus. -/
def Store.listening (vault : Vault) (catalogue : Catalogue) (adminGroups : OrderedSet String)
    (groups : GroupSource) (server : Uuid) (bus : Bus) : Store :=
  { Store.ofVault vault catalogue server with
    adminGroups := adminGroups
    groups := groups
    announcer := .onBus bus }

/-- In every run of a store, whatever befalls its disk between two calls, each turn keeps ledger,
count and announcements in step; the commits are numbered from one without a gap; and what the
bus has seen at the end is one event for each commit, in the same order. Whoever listens on the bus
has these events to read. -/
theorem run_keeps_step {vault : Vault} {catalogue : Catalogue} {adminGroups : OrderedSet String}
    {groups : GroupSource} {server : Uuid} {bus : Bus} {turns : List Turn} {final : Store}
    (run : Run Vault.KeepsCommitted
      (Store.listening vault catalogue adminGroups groups server bus) turns final) :
    (∀ turn ∈ turns, turn.InStep) ∧
      (Turn.commits turns).map Commit.sequence = List.range' 1 (Turn.commits turns).length ∧
      final.sequence = (Turn.commits turns).length ∧
      (Turn.events turns).map Event.commit = Turn.commits turns ∧
      final.announcer = .onBus (bus.publishAll (Turn.events turns)) ∧
      bus.Carries (Turn.events turns) (bus.publishAll (Turn.events turns)) := by
  obtain ⟨numbers, last⟩ := run.numbered
  obtain ⟨told, published⟩ := run.published rfl
  exact ⟨run.inStep, numbers, last.trans (Nat.zero_add _), told, published,
    bus.carries_publishAll _⟩

/-- A run in which the second of three calls is refused because nothing can be saved. Who listens to
everything has two events to read. -/
theorem run_keeps_step_after_refusal :
    ∃ (turns : List Turn) (final : Store) (bus : Bus),
      Run Vault.KeepsCommitted
        (Store.listening (Vault.ofLedger Ledger.empty 1000 default) default OrderedSet.empty
          .unreachable default (Bus.chronicle 4 [.subscribe "#"]).bus) turns final ∧
        turns.map (fun turn => turn.commit?.map Commit.sequence) = [some 1, none, some 2] ∧
        (∀ turn ∈ turns, turn.InStep) ∧
        (Turn.events turns).map Event.topic = ["role.created", "group.added"] ∧
        final.sequence = (Turn.commits turns).length ∧
        final.announcer = .onBus bus ∧ bus.Keeps 4 1 (Turn.events turns) := by
  let idle := Vault.ofLedger Ledger.empty 1000 default
  let listened := (Bus.chronicle 4 [.subscribe "#"]).bus
  let start := Store.listening idle default OrderedSet.empty .unreachable default listened
  let occasion : Occasion := ⟨default, default⟩
  let first := start.turn (.mutation (.createRole "Analysts") "olga" occasion)
  let stuck := { first.after.vault with refusal := some (.unavailable "disk full") }
  let second := { first.after with vault := stuck }.turn
    (.mutation (.dropRole "analysts") "olga" occasion)
  let freed := { second.after.vault with refusal := none }
  let third := { second.after with vault := freed }.turn
    (.mutation (.addGroups "analysts" ["Staff"]) "olga" occasion)
  have last : Run Vault.KeepsCommitted second.after [third] third.after :=
    .cons freed _ rfl (.nil _)
  have later : Run Vault.KeepsCommitted first.after [second, third] third.after :=
    .cons stuck _ rfl last
  have run : Run Vault.KeepsCommitted start [first, second, third] third.after :=
    .consSame _ later
  obtain ⟨inStep, -, count, -, announcer, carries⟩ := run_keeps_step run
  have fed : listened.Feeds "#" 1 := ⟨[1], rfl, List.mem_singleton_self 1⟩
  have all : ∀ event ∈ Turn.events [first, second, third],
      Topic.isMatch "#" event.topic = true := by
    decide +kernel
  have keeps := carries.reads _ _ 1 "#" (Bus.stocked_chronicle 4 [.subscribe "#"]) fed
  rw [List.filter_eq_self.2 all] at keeps
  refine ⟨[first, second, third], third.after, _, run, ?_, inStep, ?_, count, announcer, keeps⟩
  · decide +kernel
  · decide +kernel

end Entitlement
