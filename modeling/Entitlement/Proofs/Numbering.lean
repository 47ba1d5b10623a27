/-
This file proves what becomes of the numbers of records. The count goes up with every record that
is made, an edit leaves the records that it finds as they are, and pruning takes some of them away.
So a record that was not there before has a number that was not given out before. One relation says
this of a ledger and any later one (`Ledger.Follows`), together with what kind of keys the new
records have. It holds of every operation and chains over whole runs.
-/

import Entitlement.Proofs.Reachable

namespace Entitlement

/-! ### Kinds of keys -/

/-- A kind of keys that edits do not leave: from a key for `all` they make keys for its members,
and a rename makes a key for another path. -/
structure Catalogue.Keeps (catalogue : Catalogue) (kind : RecordKey → Prop) : Prop where
  member : ∀ {key : RecordKey} {all left : Action}, kind key →
    catalogue.all key.component = .ok all → left ∈ all.members → kind (key.withAction left.name)
  moved : ∀ {key : RecordKey} {component : String} {new steps : List Step} {path : StoredPath},
    kind key → catalogue.decode component key.path = .ok steps →
    catalogue.encode component (Ledger.replaceSteps (new.map Step.lowered) steps) = .ok path →
    kind { key with path := path }

theorem Catalogue.keeps_true (catalogue : Catalogue) : catalogue.Keeps fun _ => True :=
  ⟨fun _ _ _ => trivial, fun _ _ _ => trivial⟩

namespace Ledger

/-- All records have keys of this kind. -/
def Keyed (kind : RecordKey → Prop) (ledger : Ledger) : Prop :=
  ∀ number record, ledger.record? number = some record → kind record.key

/-- What a later ledger keeps of an earlier one. The count has not gone down; a record is the same
as before, or is of the kind and has a number that was given out since; and what roles hold they
held before, or it has a number that was known then or was given out since. -/
structure Follows (kind : RecordKey → Prop) (before after : Ledger) : Prop where
  count : before.lastRecord ≤ after.lastRecord
  record : ∀ number record, after.record? number = some record →
    before.record? number = some record ∨
      (before.lastRecord < number ∧ number ≤ after.lastRecord ∧ kind record.key)
  holding : ∀ holding ∈ after.holdings, holding ∈ before.holdings ∨
    (∃ record, before.record? holding.record = some record) ∨ holding.record ≤ after.lastRecord

variable {catalogue : Catalogue} {kind : RecordKey → Prop} {ledger next : Ledger}

namespace Follows

theorem refl (ledger : Ledger) : ledger.Follows kind ledger :=
  ⟨Nat.le_refl _, fun _ _ found => Or.inl found, fun _ member => Or.inl member⟩

theorem trans {first second third : Ledger} (early : first.Follows kind second)
    (late : second.Follows kind third) : first.Follows kind third where
  count := early.count.trans late.count
  record number record found := by
    rcases late.record number record found with earlier | ⟨above, reached, isKind⟩
    · refine (early.record number record earlier).imp_right fun ⟨above, reached, isKind⟩ => ?_
      exact ⟨above, reached.trans late.count, isKind⟩
    · exact Or.inr ⟨Nat.lt_of_le_of_lt early.count above, reached, isKind⟩
  holding holding member := by
    rcases late.holding holding member with earlier | ⟨record, known⟩ | reached
    · exact (early.holding holding earlier).imp_right
        (Or.imp_right fun reached => reached.trans late.count)
    · rcases early.record _ record known with earlier | ⟨-, reached, -⟩
      · exact Or.inr (Or.inl ⟨record, earlier⟩)
      · exact Or.inr (Or.inr (reached.trans late.count))
    · exact Or.inr (Or.inr reached)

/-- A ledger with fewer records and holdings. -/
theorem of_fewer (count : next.lastRecord = ledger.lastRecord)
    (records : ∀ number record, next.record? number = some record →
      ledger.record? number = some record)
    (holdings : ∀ holding ∈ next.holdings, holding ∈ ledger.holdings) :
    ledger.Follows kind next :=
  ⟨count.ge, fun number record found => Or.inl (records number record found),
    fun holding member => Or.inl (holdings holding member)⟩

theorem keyed (follows : ledger.Follows kind next) (keyed : ledger.Keyed kind) :
    next.Keyed kind := by
  intro number record found
  rcases follows.record number record found with earlier | ⟨-, -, isKind⟩
  · exact keyed number record earlier
  · exact isKind

end Follows

/-! ### Roles and groups -/

theorem follows_createRole {role : String} {now : Timestamp}
    (created : ledger.createRole role now = .ok next) : ledger.Follows kind next := by
  unfold createRole at created
  dsimp only at created
  split at created
  · cases created
  split at created
  · cases created
  obtain rfl := Except.ok.inj created
  exact .of_fewer rfl (fun _ _ found => found) fun _ member => member

theorem follows_dropRole {role : String} (dropped : ledger.dropRole role = .ok next) :
    ledger.Follows kind next := by
  obtain ⟨name, -, dropped⟩ := bind_eq_ok.1 dropped
  obtain rfl := pure_eq_ok.1 dropped
  exact .of_fewer rfl (fun _ _ found => found)
    fun holding member => (OrderedSet.mem_filter.1 member).1

theorem follows_addGroups {role : String} {groups : List String} {now : Timestamp}
    (added : ledger.addGroups role groups now = .ok next) : ledger.Follows kind next := by
  obtain ⟨name, -, added⟩ := bind_eq_ok.1 added
  obtain rfl := pure_eq_ok.1 added
  refine List.foldlRecOn _ (linkGroup name now) (.refl ledger) fun _ earlier _ _ => ?_
  exact earlier.trans (.of_fewer rfl (fun _ _ found => found) fun _ member => member)

theorem follows_removeGroups {role : String} {groups : List String}
    (removed : ledger.removeGroups role groups = .ok next) : ledger.Follows kind next := by
  obtain ⟨name, -, removed⟩ := bind_eq_ok.1 removed
  dsimp only at removed
  split at removed
  · cases removed
  · obtain rfl := pure_eq_ok.1 removed
    exact .of_fewer rfl (fun _ _ found => found) fun _ member => member

theorem follows_prune (ledger : Ledger) : ledger.Follows kind ledger.prune :=
  .of_fewer rfl (fun _ _ found => (OrderedMap.get?_filter_eq_some.1 found).1) fun _ member => member

/-! ### One record -/

theorem follows_detach (ledger : Ledger) (role : String) (number : Nat) :
    ledger.Follows kind (ledger.detach role number) :=
  .of_fewer rfl (fun _ _ found => found) fun _ member => (OrderedSet.mem_erase.1 member).1

theorem follows_attach (role : String) {number : Nat} {record : Record}
    (known : ledger.record? number = some record) :
    ledger.Follows kind (ledger.attach role number) where
  count := Nat.le_refl _
  record _ _ found := Or.inl found
  holding holding member := by
    rcases OrderedSet.mem_insert.1 member with rfl | earlier
    · exact Or.inr (Or.inl ⟨record, known⟩)
    · exact Or.inl earlier

/-- A key gets the number of its record, or else the next one. -/
theorem follows_ensureRecord {key : RecordKey} (isKind : kind key) (ledger : Ledger)
    (grantor : String) (now : Timestamp) :
    ledger.Follows kind (ledger.ensureRecord key grantor now).2 ∧
      ∃ record, (ledger.ensureRecord key grantor now).2.record?
        (ledger.ensureRecord key grantor now).1 = some record := by
  unfold ensureRecord
  split
  · next number listed =>
    obtain ⟨record, found, -⟩ := record?_of_findRecord? listed
    exact ⟨.refl ledger, record, found⟩
  · refine ⟨⟨Nat.le_succ _, fun number record found => ?_, fun _ member => Or.inl member⟩,
      _, OrderedMap.get?_insert_self ..⟩
    rcases OrderedMap.get?_insert_eq_some.1 found with ⟨rfl, rfl⟩ | ⟨-, earlier⟩
    · exact Or.inr ⟨Nat.lt_succ_self _, Nat.le_refl _, isKind⟩
    · exact Or.inl earlier

theorem follows_withHolding (ledger : Ledger) (role : String) {key : RecordKey}
    (isKind : kind key) (grantor : String) (now : Timestamp) :
    ledger.Follows kind (ledger.withHolding role key grantor now) := by
  obtain ⟨ensured, record, known⟩ := follows_ensureRecord isKind ledger grantor now
  exact ensured.trans (follows_attach role known)

theorem follows_withoutActions (ledger : Ledger) (role : String) (key : RecordKey)
    (actions : List Action) : ledger.Follows kind (ledger.withoutActions role key actions) := by
  refine List.foldlRecOn _ _ (.refl ledger) fun current earlier action _ => ?_
  split
  · next number _ => exact earlier.trans (follows_detach current role number)
  · exact earlier

theorem follows_grantKey {role : String} {key : RecordKey} (isKind : kind key) {grantor : String}
    {now : Timestamp} (done : ledger.grantKey catalogue role key grantor now = .ok next) :
    ledger.Follows kind next := by
  obtain ⟨all, -, done⟩ := bind_eq_ok.1 done
  obtain ⟨action, -, done⟩ := bind_eq_ok.1 done
  split at done
  · rw [← pure_eq_ok.1 done]
    exact (follows_withoutActions ledger role key all.members).trans
      (follows_withHolding _ role isKind grantor now)
  split at done
  · rw [← pure_eq_ok.1 done]
    exact .refl ledger
  · rw [← pure_eq_ok.1 done]
    exact follows_withHolding ledger role isKind grantor now

variable (keeps : catalogue.Keeps kind) (keyed : ledger.Keyed kind)

include keeps keyed

theorem follows_revokeRecord {role : String} {action : Action} {number : Nat} {grantor : String}
    {now : Timestamp}
    (done : ledger.revokeRecord catalogue role action number grantor now = .ok next) :
    ledger.Follows kind next := by
  unfold revokeRecord at done
  split at done
  · rw [← pure_eq_ok.1 done]
    exact .refl ledger
  next record found =>
  obtain ⟨all, isAll, done⟩ := bind_eq_ok.1 done
  obtain ⟨held, -, done⟩ := bind_eq_ok.1 done
  have without : ledger.Follows kind (ledger.detach role number) :=
    follows_detach ledger role number
  split at done
  · rw [← pure_eq_ok.1 done]
    exact without
  split at done
  · -- The other members of `all` are granted instead.
    rw [← pure_eq_ok.1 done]
    refine List.foldlRecOn _ _ without fun current earlier left isLeft => ?_
    have isKind := keeps.member (keyed number record found) isAll (List.mem_filter.1 isLeft).1
    exact earlier.trans (follows_withHolding current role isKind grantor now)
  split at done
  · rw [← pure_eq_ok.1 done]
    exact without
  · rw [← pure_eq_ok.1 done]
    exact .refl ledger

theorem follows_moveHolding {component : String} {all : Action} {new : List Step}
    {now : Timestamp} {holding : Holding}
    (done : ledger.moveHolding catalogue component all (new.map Step.lowered) now holding =
      .ok next) : ledger.Follows kind next := by
  unfold moveHolding at done
  split at done
  · rw [← pure_eq_ok.1 done]
    exact .refl ledger
  next record found =>
  obtain ⟨steps, decoded, done⟩ := bind_eq_ok.1 done
  obtain ⟨path, encoded, done⟩ := bind_eq_ok.1 done
  obtain ⟨middle, revoked, done⟩ := bind_eq_ok.1 done
  have isKind := keeps.moved (keyed holding.record record found) decoded encoded
  exact (follows_revokeRecord keeps keyed revoked).trans (follows_grantKey isKind done)

/-! ### The edits of privileges -/

omit keeps in
theorem follows_each {Item : Type} {edit : Ledger → Item → Except StoreError Ledger}
    {items : List Item}
    (follows : ∀ current item next, current.Keyed kind → edit current item = .ok next →
      current.Follows kind next) :
    ledger.Follows kind (Edited.each edit ledger items).ledger := by
  refine Edited.each_keeps (ledger.Follows kind) (.refl ledger) ?_
  intro item _ current next earlier edited
  exact earlier.trans (follows current item next (earlier.keyed keyed) edited)

theorem follows_revoke (role : String) (privilege : Privilege) (grantor : String)
    (now : Timestamp) :
    ledger.Follows kind (ledger.revoke catalogue role privilege grantor now).ledger := by
  unfold revoke
  dsimp only
  split
  · exact .refl ledger
  · exact follows_each keyed fun current number next keyed done =>
      follows_revokeRecord keeps keyed done

theorem follows_drop (privilege : Privilege) (requestor : String) (now : Timestamp) :
    ledger.Follows kind (ledger.drop catalogue privilege requestor now).ledger := by
  unfold drop
  dsimp only
  split
  · exact .refl ledger
  · exact follows_each keyed fun current holding next keyed done =>
      follows_revokeRecord keeps keyed done

theorem follows_rename (component service : String) (old new : List Step) (now : Timestamp) :
    ledger.Follows kind (ledger.rename catalogue component service old new now).ledger := by
  unfold rename
  dsimp only
  split
  · exact .refl ledger
  · exact follows_each keyed fun current holding next keyed done =>
      follows_moveHolding keeps keyed done

omit keeps keyed in
theorem follows_grant {privilege : Privilege}
    (ofKind : ∀ key, catalogue.toKey privilege = .ok key → kind key) (role grantor : String)
    (now : Timestamp) :
    ledger.Follows kind (ledger.grant catalogue role privilege grantor now).ledger := by
  refine Edited.ofResult_keeps (ledger.Follows kind) (.refl ledger) fun next done => ?_
  obtain ⟨name, -, done⟩ := bind_eq_ok.1 done
  obtain ⟨key, keyed, done⟩ := bind_eq_ok.1 done
  exact follows_grantKey (ofKind key keyed) done

/-! ### Operations -/

/-- Whether what an operation grants, if it does, has a key of this kind. -/
def Operation.Grants (catalogue : Catalogue) (kind : RecordKey → Prop) : Operation → Prop
  | grant _ privilege _ _ => ∀ key, catalogue.toKey privilege = .ok key → kind key
  | _ => True

/-- A ledger follows the one before the operation, even when the operation stops on the way. -/
theorem Operation.follows (operation : Operation) (ofKind : operation.Grants catalogue kind) :
    ledger.Follows kind (operation.apply catalogue ledger).ledger := by
  have same : ledger.Follows kind ledger := .refl ledger
  unfold Operation.apply
  cases operation with
  | createRole role now =>
    exact Edited.ofResult_keeps _ same fun next done => follows_createRole done
  | dropRole role => exact Edited.ofResult_keeps _ same fun next done => follows_dropRole done
  | addGroups role groups now =>
    exact Edited.ofResult_keeps _ same fun next done => follows_addGroups done
  | removeGroups role groups =>
    exact Edited.ofResult_keeps _ same fun next done => follows_removeGroups done
  | grant role privilege grantor now => exact follows_grant ofKind role grantor now
  | revoke role privilege grantor now => exact follows_revoke keeps keyed role privilege grantor now
  | drop privilege requestor now => exact follows_drop keeps keyed privilege requestor now
  | rename component service old new now =>
    exact follows_rename keeps keyed component service old new now
  | prune => exact follows_prune ledger

end Ledger

/-! ### Runs -/

/-- The committed ledgers of a run, from the one before its first turn. -/
def Turn.ledgers (store : Store) (turns : List Turn) : List Ledger :=
  store.vault.committed :: turns.map fun turn => turn.after.vault.committed

theorem Store.follows_turn (store : Store) (call : Call) :
    store.vault.committed.Follows (fun _ => True) (store.turn call).after.vault.committed := by
  obtain ⟨-, ⟨-, kept⟩ | ⟨mutation, _, requestor, occasion, next, -, done, committed⟩⟩ :=
    store.committed_turn call
  · rw [kept]
    exact .refl _
  · have ofKind : (mutation.change.operation requestor occasion.now).Grants store.catalogue
        fun _ => True := by
      cases mutation <;> simp [Mutation.change, Change.operation, Ledger.Operation.Grants]
    rw [committed, ← Edited.result_eq_ok done]
    exact (Ledger.Operation.follows store.catalogue.keeps_true (fun _ _ _ => trivial) _
      ofKind).trans (Ledger.follows_prune _)

/-- Every committed ledger of a run follows all that were committed before it. -/
theorem Run.pairwise_follows {store final : Store} {turns : List Turn}
    (run : Run Vault.KeepsCommitted store turns final) :
    (Turn.ledgers store turns).Pairwise (Ledger.Follows fun _ => True) := by
  induction run with
  | nil => exact List.pairwise_singleton ..
  | @cons store final turns vault call moved _ inductionHypothesis =>
    refine List.pairwise_cons.2 ⟨fun ledger member => ?_, inductionHypothesis⟩
    have first := Store.follows_turn { store with vault := vault } call
    rw [show vault.committed = store.vault.committed from moved] at first
    rcases List.mem_cons.1 member with rfl | later
    · exact first
    · exact first.trans ((List.pairwise_cons.1 inductionHypothesis).1 ledger later)

/-- In every run of a store that begins with an empty ledger, a number that was given to a record
is the number of this one for all time: the committed ledgers that have a record under the number
have the same one, and once it is gone the number is not used again. The count never goes down. -/
theorem run_keeps_numbers {store final : Store} {turns : List Turn}
    (fresh : store.vault.committed = Ledger.empty)
    (run : Run Vault.KeepsCommitted store turns final) :
    (∀ number early late record other, [early, late].Sublist (Turn.ledgers store turns) →
        early.record? number = some record → late.record? number = some other →
        record = other) ∧
      (∀ number early middle late record,
        [early, middle, late].Sublist (Turn.ledgers store turns) →
        early.record? number = some record → middle.record? number = none →
        late.record? number = none) ∧
      (Turn.ledgers store turns).Pairwise fun early late => early.lastRecord ≤ late.lastRecord := by
  have follows := run.pairwise_follows
  -- The count has come to the number of every record, since there was none at first.
  have counted : ∀ ledger ∈ Turn.ledgers store turns, ∀ number record,
      ledger.record? number = some record → number ≤ ledger.lastRecord := by
    intro ledger member number record found
    have fromStart : Ledger.empty.Follows (fun _ => True) ledger := by
      rcases List.mem_cons.1 member with rfl | later
      · rw [fresh]
        exact .refl _
      · rw [← fresh]
        exact (List.pairwise_cons.1 follows).1 ledger later
    rcases fromStart.record number record found with earlier | ⟨-, reached, -⟩
    · cases earlier
    · exact reached
  refine ⟨?_, ?_, follows.imp Ledger.Follows.count⟩
  · intro number early late record other ordered found laterFound
    have reached := counted early (ordered.subset List.mem_cons_self) number record found
    have between := List.pairwise_pair.1 (follows.sublist ordered)
    rcases between.record number other laterFound with earlier | ⟨above, -⟩
    · exact Option.some.inj (found.symm.trans earlier)
    · exact absurd reached (Nat.not_le_of_lt above)
  · intro number early middle late record ordered found gone
    have reached := counted early (ordered.subset List.mem_cons_self) number record found
    obtain ⟨fromEarly, fromMiddle⟩ := List.pairwise_cons.1 (follows.sublist ordered)
    have grown := (fromEarly middle List.mem_cons_self).count
    -- If the record came back, its number would be above the count, which had reached it before.
    refine Option.eq_none_iff_forall_ne_some.2 fun other laterFound => ?_
    rcases (List.pairwise_pair.1 fromMiddle).record number other laterFound with
      earlier | ⟨above, -⟩
    · rw [gone] at earlier
      cases earlier
    · exact absurd (reached.trans grown) (Nat.not_le_of_lt above)

/-- A run in which a record goes, a grant that would make one is refused because nothing can be
saved, and the next record gets the number after the first. -/
theorem run_keeps_numbers_library :
    ∃ (turns : List Turn) (final : Store),
      Run Vault.KeepsCommitted libraryStore turns final ∧
        (Turn.ledgers libraryStore turns).map (fun ledger => ledger.records.keys) =
          [[], [], [1], [], [], [2]] ∧
        (Turn.ledgers libraryStore turns).map Ledger.lastRecord = [0, 0, 1, 1, 1, 2] ∧
        ∀ number early middle late record,
          [early, middle, late].Sublist (Turn.ledgers libraryStore turns) →
          early.record? number = some record → middle.record? number = none →
          late.record? number = none := by
  let occasion : Occasion := ⟨default, default⟩
  let read : BuiltPrivilege := ⟨libraryPrivilege "read", (libraryPrivilege "read").toDraft, rfl⟩
  let lend : BuiltPrivilege := ⟨libraryPrivilege "lend", (libraryPrivilege "lend").toDraft, rfl⟩
  let first := libraryStore.turn (.mutation (.createRole "Clerks") "olga" occasion)
  let second := first.after.turn (.mutation (.grant "Clerks" read) "olga" occasion)
  let third := second.after.turn (.mutation (.drop read) "olga" occasion)
  let stuck := { third.after.vault with refusal := some (.unavailable "disk full") }
  let fourth := { third.after with vault := stuck }.turn
    (.mutation (.grant "Clerks" lend) "olga" occasion)
  let freed := { fourth.after.vault with refusal := none }
  let fifth := { fourth.after with vault := freed }.turn
    (.mutation (.grant "Clerks" read) "olga" occasion)
  have last : Run Vault.KeepsCommitted fourth.after [fifth] fifth.after :=
    .cons freed _ rfl (.nil _)
  have later : Run Vault.KeepsCommitted third.after [fourth, fifth] fifth.after :=
    .cons stuck _ rfl last
  have run : Run Vault.KeepsCommitted libraryStore [first, second, third, fourth, fifth]
      fifth.after :=
    .consSame _ (.consSame _ (.consSame _ later))
  obtain ⟨-, gone, -⟩ := run_keeps_numbers rfl run
  refine ⟨[first, second, third, fourth, fifth], fifth.after, run, ?_, ?_, gone⟩
  · decide +kernel
  · decide +kernel

end Entitlement
