/-
This file proves that the tables of a ledger fit together after any operations in any order,
those that fail on the way among them, and that a store only ever commits such ledgers.

Roles and groups are edited row by row. An edit of privileges is a chain of deeds, each of which
gives a key to one role or takes a record from one (`Ledger.Deed`). An edit chooses its records
before it changes any, so what the chain does later must still find them; it does because a ledger
only grows on the way.
-/

import Entitlement.Proofs.Edits
import Entitlement.Proofs.Runs
import Mathlib.Logic.Relation

namespace Entitlement

namespace Ledger

variable {catalogue : Catalogue} {ledger : Ledger}

/-! ### Rows -/

namespace Coherent

theorem empty : Ledger.empty.Coherent catalogue where
  role _ _ found := by simp [Ledger.empty] at found
  group _ _ found := by simp [Ledger.empty] at found
  link _ member := absurd member (OrderedSet.not_mem_empty _)
  holding _ member := absurd member (OrderedSet.not_mem_empty _)
  apart _ _ _ _ found := by simp [record?, Ledger.empty] at found
  number _ _ found := by simp [record?, Ledger.empty] at found
  fits _ _ found := by simp [record?, Ledger.empty] at found

variable (coherent : ledger.Coherent catalogue)

include coherent

theorem createRole {role : String} {now : Timestamp} {next : Ledger}
    (created : ledger.createRole role now = .ok next) : next.Coherent catalogue := by
  unfold Ledger.createRole at created
  dsimp only at created
  split at created
  · cases created
  next inked =>
  split at created
  · cases created
  obtain rfl := Except.ok.inj created
  have nonempty : Text.normalize role ≠ "" := fun blank => inked (String.isEmpty_iff.2 blank)
  have stays : ∀ name, ledger.roles.contains name = true →
      (ledger.roles.insert (Text.normalize role) ⟨Text.normalize role, now⟩).contains name = true :=
    fun name known => OrderedMap.contains_insert.2 (Or.inr known)
  refine { coherent with role := ?_, link := ?_, holding := ?_ }
  · intro name row found
    rcases OrderedMap.get?_insert_eq_some.1 found with ⟨rfl, rfl⟩ | ⟨-, earlier⟩
    · exact ⟨rfl, Text.normalize_normalize role, Text.isBlankText_normalize nonempty⟩
    · exact coherent.role name row earlier
  · intro link member
    obtain ⟨role, group⟩ := coherent.link link member
    exact ⟨stays _ role, group⟩
  · intro holding member
    obtain ⟨role, record⟩ := coherent.holding holding member
    exact ⟨stays _ role, record⟩

theorem dropRole {role : String} {next : Ledger} (dropped : ledger.dropRole role = .ok next) :
    next.Coherent catalogue := by
  obtain ⟨name, -, dropped⟩ := bind_eq_ok.1 dropped
  obtain rfl := pure_eq_ok.1 dropped
  have stays : ∀ other, other ≠ name → ledger.roles.contains other = true →
      (ledger.roles.erase name).contains other = true := by
    intro other apart known
    obtain ⟨row, found⟩ := OrderedMap.contains_iff.1 known
    exact OrderedMap.contains_iff.2 ⟨row, OrderedMap.get?_erase_eq_some.2 ⟨apart, found⟩⟩
  refine { coherent with role := ?_, link := ?_, holding := ?_ }
  · intro other row found
    exact coherent.role other row (OrderedMap.get?_erase_eq_some.1 found).2
  · intro link member
    obtain ⟨earlier, apart⟩ := OrderedSet.mem_filter.1 member
    obtain ⟨role, group⟩ := coherent.link link earlier
    exact ⟨stays _ (bne_iff_ne.1 apart) role, group⟩
  · intro holding member
    obtain ⟨earlier, apart⟩ := OrderedSet.mem_filter.1 member
    obtain ⟨role, record⟩ := coherent.holding holding earlier
    exact ⟨stays _ (bne_iff_ne.1 apart) role, record⟩

theorem linkGroup {role group : String} (known : ledger.roles.contains role = true)
    (normal : Text.normalize group = group) (now : Timestamp) :
    (Ledger.linkGroup role now ledger group).Coherent catalogue := by
  unfold Ledger.linkGroup
  refine { coherent with group := ?_, link := ?_ }
  · intro name row found
    dsimp only at found
    split at found
    · exact coherent.group name row found
    · rcases OrderedMap.get?_insert_eq_some.1 found with ⟨rfl, rfl⟩ | ⟨-, earlier⟩
      · exact ⟨rfl, normal⟩
      · exact coherent.group name row earlier
  · intro link member
    dsimp only
    rcases OrderedSet.mem_insert.1 member with rfl | earlier
    · refine ⟨known, ?_⟩
      split
      · assumption
      · exact OrderedMap.contains_insert.2 (Or.inl rfl)
    · obtain ⟨role, group⟩ := coherent.link link earlier
      refine ⟨role, ?_⟩
      split
      · exact group
      · exact OrderedMap.contains_insert.2 (Or.inr group)

theorem foldl_linkGroup {role : String} (known : ledger.roles.contains role = true)
    {groups : List String} (normal : ∀ group ∈ groups, Text.normalize group = group)
    (now : Timestamp) : (groups.foldl (Ledger.linkGroup role now) ledger).Coherent catalogue := by
  induction groups generalizing ledger with
  | nil => exact coherent
  | cons group rest inductionHypothesis =>
    have linked := coherent.linkGroup known (normal group List.mem_cons_self) now
    exact inductionHypothesis linked known fun other member =>
      normal other (List.mem_cons_of_mem _ member)

theorem addGroups {role : String} {groups : List String} {now : Timestamp} {next : Ledger}
    (added : ledger.addGroups role groups now = .ok next) : next.Coherent catalogue := by
  obtain ⟨name, required, added⟩ := bind_eq_ok.1 added
  obtain ⟨known, rfl⟩ := requireRole_eq_ok.1 required
  obtain rfl := pure_eq_ok.1 added
  refine coherent.foldl_linkGroup known (fun group member => ?_) now
  obtain ⟨given, -, rfl⟩ := List.mem_map.1 (OrderedSet.mem_ofList.1 member)
  exact Text.normalize_normalize given

theorem removeGroups {role : String} {groups : List String} {next : Ledger}
    (removed : ledger.removeGroups role groups = .ok next) : next.Coherent catalogue := by
  obtain ⟨name, -, removed⟩ := bind_eq_ok.1 removed
  dsimp only at removed
  split at removed
  · cases removed
  · obtain rfl := pure_eq_ok.1 removed
    exact { coherent with
      link := fun link member => coherent.link link (OrderedSet.mem_filter.1 member).1 }

theorem prune : ledger.prune.Coherent catalogue := by
  have earlier : ∀ number record, ledger.prune.record? number = some record →
      ledger.record? number = some record :=
    fun number record found => (OrderedMap.get?_filter_eq_some.1 found).1
  refine { coherent with holding := ?_, apart := ?_, number := ?_, fits := ?_ }
  · intro holding member
    obtain ⟨role, record, found⟩ := coherent.holding holding member
    have held : ledger.isHeld holding.record = true :=
      List.any_eq_true.2 ⟨holding, member, beq_self_eq_true _⟩
    exact ⟨role, record, OrderedMap.get?_filter_eq_some.2 ⟨found, held⟩⟩
  · intro first second record other firstFound secondFound same
    exact coherent.apart first second record other (earlier _ _ firstFound)
      (earlier _ _ secondFound) same
  · exact fun number record found => coherent.number number record (earlier _ _ found)
  · exact fun number record found => coherent.fits number record (earlier _ _ found)

end Coherent

/-! ### Edits as chains of deeds -/

/-- One deed of an edit: a key is given to a role, or a record is taken from one. -/
inductive Deed (catalogue : Catalogue) (ledger : Ledger) : Ledger → Prop where
  | gave {name : String} {key : RecordKey} {all : Action} {next : Ledger}
      (fits : catalogue.Fits key) (isAll : catalogue.all key.component = .ok all)
      (granted : Granted catalogue ledger name key all next) : Deed catalogue ledger next
  | took {name : String} {next : Ledger} (revoked : Revoked catalogue ledger name next) :
      Deed catalogue ledger next

/-- Several deeds, one after the other. -/
abbrev Deeds (catalogue : Catalogue) : Ledger → Ledger → Prop :=
  Relation.ReflTransGen (Deed catalogue)

theorem Deeds.coherent_grows {next : Ledger} (deeds : Deeds catalogue ledger next)
    (coherent : ledger.Coherent catalogue) : next.Coherent catalogue ∧ ledger.Grows next := by
  induction deeds with
  | refl => exact ⟨coherent, .refl ledger⟩
  | tail _ deed inductionHypothesis =>
    obtain ⟨middle, early⟩ := inductionHypothesis
    cases deed with
    | gave _ _ granted =>
      obtain ⟨last, late⟩ := granted.coherent_grows middle
      exact ⟨last, early.trans late⟩
    | took revoked =>
      obtain ⟨last, late⟩ := revoked.coherent_grows middle
      exact ⟨last, early.trans late⟩

/-- An edit of items is a chain of deeds when what it does for each item is one in any ledger
that has grown out of the first. -/
theorem deeds_each {Item : Type} {edit : Ledger → Item → Except StoreError Ledger}
    {items : List Item} (coherent : ledger.Coherent catalogue)
    (deeds : ∀ item ∈ items, ∀ current next : Ledger, current.Coherent catalogue →
      ledger.Grows current → edit current item = .ok next → Deeds catalogue current next) :
    Deeds catalogue ledger (Edited.each edit ledger items).ledger := by
  refine Edited.each_keeps (Deeds catalogue ledger) .refl ?_
  intro item member current next earlier edited
  obtain ⟨sound, grown⟩ := earlier.coherent_grows coherent
  exact earlier.trans (deeds item member current next sound grown edited)

namespace Coherent

variable (coherent : ledger.Coherent catalogue) (registered : catalogue.Registered)

include coherent registered

theorem deeds_revokeRecord {role : String} (known : ledger.hasRole role = true) {action : Action}
    {number : Nat} {grantor : String} {now : Timestamp} {next : Ledger}
    (done : ledger.revokeRecord catalogue role action number grantor now = .ok next) :
    Deeds catalogue ledger next :=
  .single (.took (coherent.revoked registered known done))

/-- A grant that succeeds gives the role the key of the privilege. -/
theorem granted_of_grant {role : String} {privilege : Privilege} {grantor : String}
    {now : Timestamp} {next : Ledger}
    (done : (ledger.grant catalogue role privilege grantor now).result = .ok next) :
    ∃ key all, catalogue.toKey privilege = .ok key ∧ catalogue.Fits key ∧
      catalogue.all key.component = .ok all ∧
      Granted catalogue ledger (Text.normalize role) key all next := by
  rw [Ledger.grant, Edited.result_ofResult] at done
  obtain ⟨name, required, done⟩ := bind_eq_ok.1 done
  obtain ⟨key, keyed, done⟩ := bind_eq_ok.1 done
  obtain ⟨known, rfl⟩ := requireRole_eq_ok.1 required
  have fits := Catalogue.fits_of_toKey registered keyed
  obtain ⟨all, isAll, granted⟩ := coherent.granted ((hasRole_normalize role).trans known) fits done
  rw [Text.normalize_normalize] at granted
  exact ⟨key, all, keyed, fits, isAll, granted⟩

theorem deeds_grant (role : String) (privilege : Privilege) (grantor : String) (now : Timestamp) :
    Deeds catalogue ledger (ledger.grant catalogue role privilege grantor now).ledger := by
  cases done : (ledger.grant catalogue role privilege grantor now).result with
  | ok next =>
    obtain ⟨key, all, -, fits, isAll, granted⟩ := coherent.granted_of_grant registered done
    rw [Edited.result_eq_ok done]
    exact .single (.gave fits isAll granted)
  | error reason =>
    rw [Ledger.grant, Edited.result_ofResult] at done
    rw [Ledger.grant, done]
    exact .refl

theorem deeds_revoke (role : String) (privilege : Privilege) (grantor : String) (now : Timestamp) :
    Deeds catalogue ledger (ledger.revoke catalogue role privilege grantor now).ledger := by
  unfold Ledger.revoke
  dsimp only
  split
  · exact .refl
  · next name action numbers plan =>
    obtain ⟨_, required, plan⟩ := bind_eq_ok.1 plan
    obtain ⟨key, -, plan⟩ := bind_eq_ok.1 plan
    obtain ⟨resolved, -, plan⟩ := bind_eq_ok.1 plan
    obtain ⟨entries, -, plan⟩ := bind_eq_ok.1 plan
    obtain ⟨known, rfl⟩ := requireRole_eq_ok.1 required
    obtain ⟨rfl, -⟩ := Prod.mk.inj (pure_eq_ok.1 plan)
    refine deeds_each coherent fun number _ current next sound grown done => ?_
    refine sound.deeds_revokeRecord registered ?_ done
    rw [grown.hasRole, hasRole_normalize, known]

theorem deeds_drop (privilege : Privilege) (requestor : String) (now : Timestamp) :
    Deeds catalogue ledger (ledger.drop catalogue privilege requestor now).ledger := by
  unfold Ledger.drop
  dsimp only
  split
  · exact .refl
  · next action holdings plan =>
    obtain ⟨resolved, -, plan⟩ := bind_eq_ok.1 plan
    obtain ⟨path, -, plan⟩ := bind_eq_ok.1 plan
    obtain ⟨found, included, plan⟩ := bind_eq_ok.1 plan
    obtain ⟨-, rfl⟩ := Prod.mk.inj (pure_eq_ok.1 plan)
    refine deeds_each coherent fun holding member current next sound grown done => ?_
    refine sound.deeds_revokeRecord registered ?_ done
    rw [grown.hasRole, coherent.hasRole_of_mem ((mem_includedHoldings included _).1 member).1]

theorem deeds_moveHolding {component : String} {all : Action} {replacement : List Step}
    {now : Timestamp} {holding : Holding} {next : Ledger}
    (known : ledger.hasRole holding.role = true)
    (placed : ∀ record, ledger.record? holding.record = some record →
      record.key.component = component)
    (done : ledger.moveHolding catalogue component all replacement now holding = .ok next) :
    Deeds catalogue ledger next := by
  unfold Ledger.moveHolding at done
  split at done
  · obtain rfl := pure_eq_ok.1 done
    exact .refl
  next record found =>
  obtain rfl := placed record found
  obtain ⟨steps, -, done⟩ := bind_eq_ok.1 done
  obtain ⟨path, encoded, done⟩ := bind_eq_ok.1 done
  obtain ⟨middle, revoked, done⟩ := bind_eq_ok.1 done
  have taken := coherent.revoked registered known revoked
  obtain ⟨between, grows⟩ := taken.coherent_grows coherent
  have fits : catalogue.Fits { record.key with path := path } :=
    (coherent.fits _ record found).moved encoded
  obtain ⟨whole, isAll, granted⟩ := between.granted ((grows.hasRole _).trans known) fits done
  exact .tail (.single (.took taken)) (.gave fits isAll granted)

theorem deeds_rename (component service : String) (old new : List Step) (now : Timestamp) :
    Deeds catalogue ledger (ledger.rename catalogue component service old new now).ledger := by
  unfold Ledger.rename
  dsimp only
  split
  · exact .refl
  · next all holdings plan =>
    split at plan
    · cases plan
    obtain ⟨_, -, plan⟩ := bind_eq_ok.1 plan
    obtain ⟨_, -, plan⟩ := bind_eq_ok.1 plan
    obtain ⟨_, -, plan⟩ := bind_eq_ok.1 plan
    obtain ⟨found, included, plan⟩ := bind_eq_ok.1 plan
    obtain ⟨-, rfl⟩ := Prod.mk.inj (pure_eq_ok.1 plan)
    refine deeds_each coherent fun holding member current next sound grown done => ?_
    obtain ⟨isHolding, record, stored, includes⟩ := (mem_includedHoldings included _).1 member
    refine sound.deeds_moveHolding registered ?_ ?_ done
    · rw [grown.hasRole, coherent.hasRole_of_mem isHolding]
    · intro later laterFound
      -- The record is the one that the edit has found, for the ledger has only grown since.
      have same := Option.some.inj ((grown.record _ record stored).symm.trans laterFound)
      rw [← same, component_of_includes includes]
      rfl

end Coherent

/-! ### Operations -/

/-- Something that is done to a ledger, by a store or otherwise. -/
inductive Operation where
  | createRole (role : String) (now : Timestamp)
  | dropRole (role : String)
  | addGroups (role : String) (groups : List String) (now : Timestamp)
  | removeGroups (role : String) (groups : List String)
  | grant (role : String) (privilege : Privilege) (grantor : String) (now : Timestamp)
  | revoke (role : String) (privilege : Privilege) (grantor : String) (now : Timestamp)
  | drop (privilege : Privilege) (requestor : String) (now : Timestamp)
  | rename (component service : String) (old new : List Step) (now : Timestamp)
  | prune

/-- The ledger after an operation, which need not have come to its end. -/
def Operation.apply (catalogue : Catalogue) (ledger : Ledger) : Operation → Edited
  | createRole role now => Edited.ofResult ledger (ledger.createRole role now)
  | dropRole role => Edited.ofResult ledger (ledger.dropRole role)
  | addGroups role groups now => Edited.ofResult ledger (ledger.addGroups role groups now)
  | removeGroups role groups => Edited.ofResult ledger (ledger.removeGroups role groups)
  | grant role privilege grantor now => ledger.grant catalogue role privilege grantor now
  | revoke role privilege grantor now => ledger.revoke catalogue role privilege grantor now
  | drop privilege requestor now => ledger.drop catalogue privilege requestor now
  | rename component service old new now =>
    ledger.rename catalogue component service old new now
  | prune => ⟨ledger.prune, none⟩

/-- A ledger that comes out of the empty one by operations in any order, whether they come to
their ends or not. -/
inductive Reachable (catalogue : Catalogue) : Ledger → Prop where
  | empty : Reachable catalogue Ledger.empty
  | apply {ledger : Ledger} (reached : Reachable catalogue ledger) (operation : Operation) :
      Reachable catalogue (operation.apply catalogue ledger).ledger

theorem Coherent.apply (coherent : ledger.Coherent catalogue) (registered : catalogue.Registered)
    (operation : Operation) : (operation.apply catalogue ledger).ledger.Coherent catalogue := by
  unfold Operation.apply
  cases operation with
  | createRole role now =>
    exact Edited.ofResult_keeps _ coherent fun next done => coherent.createRole done
  | dropRole role => exact Edited.ofResult_keeps _ coherent fun next done => coherent.dropRole done
  | addGroups role groups now =>
    exact Edited.ofResult_keeps _ coherent fun next done => coherent.addGroups done
  | removeGroups role groups =>
    exact Edited.ofResult_keeps _ coherent fun next done => coherent.removeGroups done
  | grant => exact ((coherent.deeds_grant registered ..).coherent_grows coherent).1
  | revoke => exact ((coherent.deeds_revoke registered ..).coherent_grows coherent).1
  | drop => exact ((coherent.deeds_drop registered ..).coherent_grows coherent).1
  | rename => exact ((coherent.deeds_rename registered ..).coherent_grows coherent).1
  | prune => exact coherent.prune

theorem Reachable.coherent (registered : catalogue.Registered)
    (reached : Reachable catalogue ledger) : ledger.Coherent catalogue := by
  induction reached with
  | empty => exact .empty
  | apply _ operation inductionHypothesis => exact inductionHypothesis.apply registered operation

/-- A ledger without records that nobody holds. -/
def Pruned (ledger : Ledger) : Prop :=
  ∀ number record, ledger.record? number = some record → ∃ role, ⟨role, number⟩ ∈ ledger.holdings

theorem pruned_prune (ledger : Ledger) : ledger.prune.Pruned := by
  intro number record found
  obtain ⟨-, held⟩ := OrderedMap.get?_filter_eq_some.1 found
  obtain ⟨holding, member, same⟩ := List.any_eq_true.1 held
  have sameNumber : holding.record = number := eq_of_beq same
  exact ⟨holding.role, sameNumber ▸ member⟩

end Ledger

/-! ### What a store commits -/

/-- The operation that makes a change, on behalf of the requestor. -/
def Change.operation (requestor : String) (now : Timestamp) : Change → Ledger.Operation
  | roleCreated role => .createRole role now
  | roleDropped role => .dropRole role
  | groupsAdded role groups => .addGroups role groups now
  | groupsRemoved role groups => .removeGroups role groups
  | privilegeGranted role privilege => .grant role privilege requestor now
  | privilegeRevoked role privilege => .revoke role privilege requestor now
  | privilegeDropped privilege => .drop privilege requestor now
  | privilegeRenamed component service oldPath newPath =>
    .rename component service oldPath newPath now

/-- A rename puts its names into their normal form, and can be given them in that form. -/
theorem Ledger.rename_normalize (ledger : Ledger) (catalogue : Catalogue)
    (component service : String) (old new : List Step) (now : Timestamp) :
    ledger.rename catalogue (Text.normalize component) (Text.normalize service)
        (old.map Step.lowered) (new.map Step.lowered) now =
      ledger.rename catalogue component service old new now := by
  have again : ∀ name, Text.lower (Text.trim (Text.normalize name)) =
      Text.lower (Text.trim name) := Text.normalize_normalize
  unfold Ledger.rename Target.ofService
  simp only [again, Step.map_lowered_map_lowered, List.length_map]

/-- What a store does to its ledger is the operation of the change that it makes known. -/
theorem Mutation.apply_operation {mutation : Mutation} {store : Store} {requestor : String}
    {now : Timestamp} {ledger next : Ledger}
    (edited : mutation.edit store requestor now ledger = .ok next) :
    ((mutation.change.operation requestor now).apply store.catalogue ledger).result =
      .ok next := by
  cases mutation with
  | createRole role =>
    rw [change, Change.operation, Ledger.Operation.apply, Edited.result_ofResult]
    exact edited
  | dropRole role =>
    rw [change, Change.operation, Ledger.Operation.apply, Edited.result_ofResult]
    exact edited
  | addGroups role groups =>
    rw [change, Change.operation, Ledger.Operation.apply, Edited.result_ofResult]
    exact edited
  | removeGroups role groups =>
    rw [change, Change.operation, Ledger.Operation.apply, Edited.result_ofResult]
    exact edited
  | grant role privilege =>
    obtain ⟨_, -, edited⟩ := bind_eq_ok.1 edited
    obtain ⟨_, -, edited⟩ := bind_eq_ok.1 edited
    exact edited
  | revoke role privilege =>
    obtain ⟨_, -, edited⟩ := bind_eq_ok.1 edited
    obtain ⟨_, -, edited⟩ := bind_eq_ok.1 edited
    exact edited
  | drop privilege => exact edited
  | rename component service old new =>
    rw [change, Change.operation, Ledger.Operation.apply, Ledger.rename_normalize]
    exact edited

/-- A call leaves the catalogue as it is. It makes nothing known and leaves the committed ledger
too, or it makes a change known and commits what the operation of the change makes of the
ledger. -/
theorem Store.committed_turn (store : Store) (call : Call) :
    (store.turn call).after.catalogue = store.catalogue ∧
      (((store.turn call).announced = none ∧
          (store.turn call).after.vault.committed = store.vault.committed) ∨
        ∃ (mutation : Mutation) (commit : Commit) (requestor : String) (occasion : Occasion)
          (next : Ledger),
          (store.turn call).announced =
              some (mutation.change.toEvent commit requestor occasion) ∧
            ((mutation.change.operation requestor occasion.now).apply store.catalogue
              store.vault.committed).result = .ok next ∧
            (store.turn call).after.vault.committed = next.prune) := by
  cases call with
  | query query => exact ⟨rfl, Or.inl ⟨rfl, rfl⟩⟩
  | mutation mutation requestor occasion =>
    have result := store.performed mutation requestor occasion
    simp only [Store.turn]
    generalize mutation.perform store requestor occasion = outcome at result
    cases result with
    | refused vault reason kept => exact ⟨rfl, Or.inl ⟨rfl, kept⟩⟩
    | committed vault ledger edited saved =>
      exact ⟨rfl, Or.inr ⟨mutation, _, requestor, occasion, ledger, rfl,
        Mutation.apply_operation edited, saved⟩⟩

/-- What the operations of changes keep when they are committed, a run keeps. -/
theorem Run.committed_keeps {property : Ledger → Prop} {store final : Store} {turns : List Turn}
    (run : Run Vault.KeepsCommitted store turns final)
    (begins : property store.vault.committed)
    (keeps : ∀ (mutation : Mutation) (requestor : String) (now : Timestamp) (ledger : Ledger),
      property ledger → property
        ((mutation.change.operation requestor now).apply store.catalogue ledger).ledger.prune) :
    property final.vault.committed := by
  induction run with
  | nil => exact begins
  | @cons store final turns vault call moved _ inductionHypothesis =>
    obtain ⟨catalogue, ⟨-, kept⟩ | ⟨mutation, _, requestor, occasion, next, -, done, committed⟩⟩ :=
      Store.committed_turn { store with vault := vault } call
    · rw [catalogue, kept, show vault.committed = store.vault.committed from moved]
        at inductionHypothesis
      exact inductionHypothesis begins keeps
    · rw [catalogue, committed, ← Edited.result_eq_ok done,
        show vault.committed = store.vault.committed from moved] at inductionHypothesis
      exact inductionHypothesis (keeps mutation requestor occasion.now _ begins) keeps

/-- A run that begins with a reachable ledger without unheld records ends with one. -/
theorem Run.reachable {store final : Store} {turns : List Turn}
    (run : Run Vault.KeepsCommitted store turns final)
    (reached : store.vault.committed.Reachable store.catalogue)
    (pruned : store.vault.committed.Pruned) :
    final.vault.committed.Reachable store.catalogue ∧ final.vault.committed.Pruned := by
  have kept : final.vault.committed.Reachable store.catalogue := by
    refine run.committed_keeps reached fun mutation requestor now ledger before => ?_
    exact (before.apply _).apply .prune
  exact ⟨kept, run.committed_keeps pruned fun _ _ _ _ _ => Ledger.pruned_prune _⟩

/-- The privilege to do the action on one shelf of the library and to pass this on. -/
def libraryPrivilege (action : String) : Privilege where
  component := "library"
  service := "lending"
  action := action
  scope := "*"
  grantOption := some true
  steps := [⟨"shelf", "a"⟩]

/-- The privilege to read at a path of the library and to pass this on. -/
def libraryReading (steps : List Step) : Privilege :=
  { libraryPrivilege "read" with steps := steps }

/-- A store of the library, in which one user may grant everything. -/
def libraryStore : Store where
  vault := Vault.ofLedger Ledger.empty 1000 default
  catalogue := Catalogue.library
  adminGroups := OrderedSet.ofList ["admins"]
  groups := .listed (GroupDirectory.ofList [("olga", ["admins"])])
  announcer := .silent
  server := default
  sequence := 0

/-- In every run of a store that begins with an empty ledger, the tables of the committed ledger
fit together, and every record is held by some role. -/
theorem run_coherent {store final : Store} {turns : List Turn}
    (registered : store.catalogue.Registered) (fresh : store.vault.committed = Ledger.empty)
    (run : Run Vault.KeepsCommitted store turns final) :
    final.vault.committed.Coherent store.catalogue ∧ final.vault.committed.Pruned := by
  have reached : store.vault.committed.Reachable store.catalogue := by
    rw [fresh]
    exact .empty
  have pruned : store.vault.committed.Pruned := by
    rw [fresh]
    exact Ledger.pruned_prune Ledger.empty
  obtain ⟨reaches, prunes⟩ := run.reachable reached pruned
  exact ⟨reaches.coherent registered, prunes⟩

/-- A run in which what is left of a whole privilege takes its place, under the next number. -/
theorem run_coherent_library :
    ∃ (turns : List Turn) (final : Store),
      Run Vault.KeepsCommitted libraryStore turns final ∧
        (Turn.commits turns).length = 3 ∧
        final.vault.committed.records.entries.map (fun entry => (entry.1, entry.2.key.action)) =
          [(2, "lend")] ∧
        final.vault.committed.Coherent libraryStore.catalogue ∧
        final.vault.committed.Pruned := by
  let occasion : Occasion := ⟨default, default⟩
  let all : BuiltPrivilege := ⟨libraryPrivilege "all", (libraryPrivilege "all").toDraft, rfl⟩
  let read : BuiltPrivilege := ⟨libraryPrivilege "read", (libraryPrivilege "read").toDraft, rfl⟩
  let first := libraryStore.turn (.mutation (.createRole "Clerks") "olga" occasion)
  let second := first.after.turn (.mutation (.grant "Clerks" all) "olga" occasion)
  let third := second.after.turn (.mutation (.revoke "Clerks" read) "olga" occasion)
  have run : Run Vault.KeepsCommitted libraryStore [first, second, third] third.after :=
    .consSame _ (.consSame _ (.consSame _ (.nil _)))
  obtain ⟨coherent, pruned⟩ := run_coherent Catalogue.registered_library rfl run
  refine ⟨[first, second, third], third.after, run, ?_, ?_, coherent, pruned⟩
  · decide +kernel
  · decide +kernel

end Entitlement
