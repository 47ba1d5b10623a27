/-
This file says when the tables of a ledger fit together, and proves that nothing that is done to
one role and one record breaks this. The edits of privileges come down to two such deeds, a
record taken from a role and a key given to one. What each of them does is stated once
(`Ledger.Becomes`): the ledger stays coherent, it grows, and the keys that a role holds afterwards
are described without any mention of record numbers.
-/

import Entitlement.Grants.Edit
import Entitlement.Proofs.Paths
import Entitlement.Proofs.Registry

namespace Entitlement

/-! ### Keys that can be read back -/

/-- A key that the catalogue can read back: its action is known by this very name, and its path
decodes to steps that are stored in the same form again. -/
structure Catalogue.Fits (catalogue : Catalogue) (key : RecordKey) : Prop where
  action : ∃ action, catalogue.resolve key.component key.action = .ok action ∧
    action.name = key.action
  path : ∃ steps, catalogue.decode key.component key.path = .ok steps ∧
    catalogue.encode key.component steps = .ok key.path

namespace Catalogue

theorem toKey_eq_ok {catalogue : Catalogue} {privilege : Privilege} {key : RecordKey} :
    catalogue.toKey privilege = .ok key ↔
      ∃ action path, catalogue.resolve privilege.component privilege.action = .ok action ∧
        catalogue.encode privilege.component privilege.steps = .ok path ∧
        ⟨privilege.component, privilege.service, action.name, privilege.scope,
          privilege.grantOption, path⟩ = key := by
  unfold toKey
  simp only [bind_eq_ok, pure_eq_ok, exists_and_left]

theorem decode_of_encode {catalogue : Catalogue} {component : String} {steps : List Step}
    {path : StoredPath} (encoded : catalogue.encode component steps = .ok path) :
    ∃ decoded, catalogue.decode component path = .ok decoded ∧ SamePath steps decoded ∧
      catalogue.encode component decoded = .ok path := by
  obtain ⟨decoded, found, same, again⟩ :=
    Hierarchies.decode_encode (StoreError.lift_eq_ok.1 encoded)
  exact ⟨decoded, StoreError.lift_eq_ok.2 found, same, StoreError.lift_eq_ok.2 again⟩

/-- The key of a privilege can be read back. -/
theorem fits_of_toKey {catalogue : Catalogue} (registered : catalogue.Registered)
    {privilege : Privilege} {key : RecordKey} (keyed : catalogue.toKey privilege = .ok key) :
    catalogue.Fits key := by
  obtain ⟨action, path, resolved, encoded, rfl⟩ := toKey_eq_ok.1 keyed
  have named := registered.resolve_name (StoreError.lift_eq_ok.1 resolved)
  obtain ⟨decoded, found, -, again⟩ := decode_of_encode encoded
  exact ⟨⟨action, StoreError.lift_eq_ok.2 named, rfl⟩, decoded, found, again⟩

namespace Fits

variable {catalogue : Catalogue} {key : RecordKey} (fits : catalogue.Fits key)

include fits

theorem name_eq {action : Action}
    (resolved : catalogue.resolve key.component key.action = .ok action) :
    action.name = key.action := by
  obtain ⟨known, knownOk, named⟩ := fits.action
  rw [resolved] at knownOk
  rw [Except.ok.inj knownOk, named]

/-- The action of a key is `all` just if its name is. -/
theorem beq_all {action all : Action}
    (resolved : catalogue.resolve key.component key.action = .ok action)
    (isAll : catalogue.all key.component = .ok all) :
    (action == all) = true ↔ key.action = Action.allName := by
  rw [Action.beq_iff, fits.name_eq resolved,
    Vocabularies.name_of_all (StoreError.lift_eq_ok.1 isAll)]

/-- The component of a key that can be read back has its `all`. -/
theorem all : ∃ all, catalogue.all key.component = .ok all := by
  obtain ⟨action, resolved, -⟩ := fits.action
  obtain ⟨all, isAll⟩ := Vocabularies.all_of_resolve (StoreError.lift_eq_ok.1 resolved)
  exact ⟨all, StoreError.lift_eq_ok.2 isAll⟩

theorem withMember (registered : catalogue.Registered) {all member : Action}
    (isAll : catalogue.all key.component = .ok all) (isMember : member ∈ all.members) :
    catalogue.Fits (key.withAction member.name) := by
  have resolved := registered.resolve_member (StoreError.lift_eq_ok.1 isAll) isMember
  exact ⟨⟨member, StoreError.lift_eq_ok.2 resolved.1, rfl⟩, fits.path⟩

theorem moved {steps : List Step} {path : StoredPath}
    (encoded : catalogue.encode key.component steps = .ok path) :
    catalogue.Fits { key with path := path } := by
  obtain ⟨decoded, found, -, again⟩ := decode_of_encode encoded
  exact ⟨fits.action, decoded, found, again⟩

end Fits

end Catalogue

/-! ### An action taken from a key -/

namespace RecordKey

/-- Whether taking an action from a role touches what the role holds under this key: it does when
the action is `all` and when the key is for `all` or for the action itself. -/
def Yields (key : RecordKey) (action : Action) : Prop :=
  action.name = Action.allName ∨ key.action = Action.allName ∨ key.action = action.name

instance (key : RecordKey) (action : Action) : Decidable (key.Yields action) :=
  inferInstanceAs (Decidable (_ ∨ _))

/-- The actions that a role keeps in the place of the key when an action is taken from it. There
are some only if the key is for `all` and the action is not. -/
def leftActions (key : RecordKey) (all action : Action) : List Action :=
  if key.action = Action.allName ∧ action.name ≠ Action.allName then all.leftovers action else []

theorem leftActions_eq_nil {key : RecordKey} {all action : Action}
    (nothing : action.name = Action.allName ∨ key.action ≠ Action.allName) :
    key.leftActions all action = [] := by
  refine if_neg fun both => ?_
  rcases nothing with whole | single
  · exact both.2 whole
  · exact single both.1

theorem mem_leftActions {key : RecordKey} {all action left : Action} :
    left ∈ key.leftActions all action ↔ key.action = Action.allName ∧
      action.name ≠ Action.allName ∧ left ∈ all.members ∧ left.name ≠ action.name := by
  unfold leftActions
  split
  · next both =>
    rw [Action.leftovers, List.mem_filter, Bool.not_eq_true', ← Bool.not_eq_true, Action.beq_iff]
    tauto
  · next none =>
    refine iff_of_false List.not_mem_nil ?_
    tauto

end RecordKey

/-! ### Tables that fit together -/

namespace Ledger

/-- A holding of a role and a record that exist. -/
def Refers (ledger : Ledger) (holding : Holding) : Prop :=
  ledger.roles.contains holding.role = true ∧
    ∃ record, ledger.record? holding.record = some record

/-- A ledger whose tables fit together. -/
structure Coherent (catalogue : Catalogue) (ledger : Ledger) : Prop where
  /-- A role is stored under its own name in normal form, which is not blank. -/
  role : ∀ name row, ledger.roles.get? name = some row →
    row.name = name ∧ Text.normalize name = name ∧ Text.isBlankText name = false
  /-- A group is stored under its own name in normal form. -/
  group : ∀ name row, ledger.groups.get? name = some row →
    row.name = name ∧ Text.normalize name = name
  /-- Roles and groups that are linked exist. -/
  link : ∀ link ∈ ledger.groupLinks,
    ledger.roles.contains link.role = true ∧ ledger.groups.contains link.group = true
  /-- Roles and records of holdings exist. -/
  holding : ∀ holding ∈ ledger.holdings, ledger.Refers holding
  /-- No two records have the same key. -/
  apart : ∀ first second record other, ledger.record? first = some record →
    ledger.record? second = some other → record.key = other.key → first = second
  /-- Records have numbers that were given out. -/
  number : ∀ number record, ledger.record? number = some record →
    1 ≤ number ∧ number ≤ ledger.lastRecord
  /-- The keys of records can be read back. -/
  fits : ∀ number record, ledger.record? number = some record → catalogue.Fits record.key

/-- What all edits of privileges keep: roles, groups and their links stay as they are, and no
record is lost or changed. -/
structure Grows (before after : Ledger) : Prop where
  roles : after.roles = before.roles
  groups : after.groups = before.groups
  groupLinks : after.groupLinks = before.groupLinks
  record : ∀ number record, before.record? number = some record →
    after.record? number = some record

namespace Grows

theorem refl (ledger : Ledger) : ledger.Grows ledger :=
  ⟨rfl, rfl, rfl, fun _ _ found => found⟩

theorem trans {first second third : Ledger} (early : first.Grows second)
    (late : second.Grows third) : first.Grows third where
  roles := late.roles.trans early.roles
  groups := late.groups.trans early.groups
  groupLinks := late.groupLinks.trans early.groupLinks
  record number record found := late.record number record (early.record number record found)

theorem withHoldings (ledger : Ledger) (holdings : OrderedSet Holding) :
    ledger.Grows { ledger with holdings := holdings } :=
  ⟨rfl, rfl, rfl, fun _ _ found => found⟩

theorem hasRole {before after : Ledger} (grows : before.Grows after) (role : String) :
    after.hasRole role = before.hasRole role := by
  unfold Ledger.hasRole
  rw [grows.roles]

theorem refers {before after : Ledger} (grows : before.Grows after) {holding : Holding}
    (refers : before.Refers holding) : after.Refers holding := by
  obtain ⟨role, record, found⟩ := refers
  exact ⟨grows.roles ▸ role, record, grows.record _ _ found⟩

end Grows

/-- Whether the role, given in normal form, holds a record with this key. -/
def HoldsKey (ledger : Ledger) (role : String) (key : RecordKey) : Prop :=
  ∃ number record, ⟨role, number⟩ ∈ ledger.holdings ∧ ledger.record? number = some record ∧
    record.key = key

/-- A coherent ledger has come out of another one, in which the roles hold these keys. -/
structure Becomes (catalogue : Catalogue) (before after : Ledger)
    (held : String → RecordKey → Prop) : Prop where
  coherent : after.Coherent catalogue
  grows : before.Grows after
  holdsKey : ∀ role key, after.HoldsKey role key ↔ held role key

namespace Becomes

theorem refl {catalogue : Catalogue} {ledger : Ledger} (coherent : ledger.Coherent catalogue) :
    ledger.Becomes catalogue ledger ledger.HoldsKey :=
  ⟨coherent, .refl ledger, fun _ _ => Iff.rfl⟩

theorem trans {catalogue : Catalogue} {first second third : Ledger}
    {middle last : String → RecordKey → Prop} (early : first.Becomes catalogue second middle)
    (late : second.Becomes catalogue third last) : first.Becomes catalogue third last :=
  ⟨late.coherent, early.grows.trans late.grows, late.holdsKey⟩

/-- The keys that are held, in other words. -/
theorem congr {catalogue : Catalogue} {before after : Ledger}
    {held same : String → RecordKey → Prop} (becomes : before.Becomes catalogue after held)
    (equal : ∀ role key, held role key ↔ same role key) :
    before.Becomes catalogue after same :=
  ⟨becomes.coherent, becomes.grows, fun role key =>
    (becomes.holdsKey role key).trans (equal role key)⟩

end Becomes

/-! ### One record -/

variable {catalogue : Catalogue} {ledger : Ledger}

theorem record?_of_findRecord? {key : RecordKey} {number : Nat}
    (found : ledger.findRecord? key = some number) :
    ∃ record, ledger.record? number = some record ∧ record.key = key := by
  obtain ⟨entry, listed, rfl⟩ := Option.map_eq_some_iff.1 found
  have same := List.find?_some listed
  rw [decide_eq_true_iff] at same
  exact ⟨entry.2, OrderedMap.get?_eq_some_iff_mem.2 (List.mem_of_find?_eq_some listed), same⟩

theorem key_ne_of_findRecord? {key : RecordKey} (missing : ledger.findRecord? key = none)
    {number : Nat} {record : Record} (found : ledger.record? number = some record) :
    record.key ≠ key := by
  intro same
  have none := List.find?_eq_none.1 (Option.map_eq_none_iff.1 missing) (number, record)
    (OrderedMap.get?_eq_some_iff_mem.1 found)
  exact none (decide_eq_true same)

namespace Coherent

variable (coherent : ledger.Coherent catalogue)

include coherent

/-- Other holdings of existing roles and records leave the ledger coherent. -/
theorem withHoldings {holdings : OrderedSet Holding}
    (refers : ∀ holding ∈ holdings, ledger.Refers holding) :
    Coherent catalogue { ledger with holdings := holdings } where
  role := coherent.role
  group := coherent.group
  link := coherent.link
  holding := refers
  apart := coherent.apart
  number := coherent.number
  fits := coherent.fits

/-- A role holds the key of a record just if it holds the record. -/
theorem holdsKey_iff_mem {role : String} {number : Nat} {record : Record}
    (found : ledger.record? number = some record) :
    ledger.HoldsKey role record.key ↔ ⟨role, number⟩ ∈ ledger.holdings := by
  constructor
  · rintro ⟨other, same, member, otherFound, equal⟩
    rwa [← coherent.apart other number same record otherFound found equal]
  · exact fun member => ⟨number, record, member, found, rfl⟩

theorem attach {role : String} {number : Nat} {record : Record}
    (known : ledger.hasRole role = true) (found : ledger.record? number = some record) :
    ledger.Becomes catalogue (ledger.attach role number) fun other key =>
      ledger.HoldsKey other key ∨ (other = Text.normalize role ∧ key = record.key) where
  coherent := by
    refine coherent.withHoldings fun holding member => ?_
    rcases OrderedSet.mem_insert.1 member with rfl | earlier
    · exact ⟨known, record, found⟩
    · exact coherent.holding holding earlier
  grows := .withHoldings ledger _
  holdsKey other key := by
    constructor
    · rintro ⟨held, heldRecord, member, heldFound, rfl⟩
      rcases OrderedSet.mem_insert.1 member with new | earlier
      · obtain ⟨rfl, rfl⟩ := Holding.mk.inj new
        have same : record = heldRecord := Option.some.inj (found.symm.trans heldFound)
        exact Or.inr ⟨rfl, congrArg Record.key same.symm⟩
      · exact Or.inl ⟨held, heldRecord, earlier, heldFound, rfl⟩
    · rintro (⟨held, heldRecord, member, heldFound, same⟩ | ⟨rfl, rfl⟩)
      · exact ⟨held, heldRecord, OrderedSet.mem_insert.2 (Or.inr member), heldFound, same⟩
      · exact ⟨number, record, OrderedSet.mem_insert.2 (Or.inl rfl), found, rfl⟩

theorem detach (role : String) {number : Nat} {record : Record}
    (found : ledger.record? number = some record) :
    ledger.Becomes catalogue (ledger.detach role number) fun other key =>
      ledger.HoldsKey other key ∧ ¬(other = Text.normalize role ∧ key = record.key) where
  coherent := coherent.withHoldings fun holding member =>
    coherent.holding holding (OrderedSet.mem_erase.1 member).1
  grows := .withHoldings ledger _
  holdsKey other key := by
    constructor
    · rintro ⟨held, heldRecord, member, heldFound, rfl⟩
      obtain ⟨earlier, others⟩ := OrderedSet.mem_erase.1 member
      refine ⟨⟨held, heldRecord, earlier, heldFound, rfl⟩, ?_⟩
      rintro ⟨rfl, same⟩
      rw [coherent.apart held number heldRecord record heldFound found same] at others
      exact others rfl
    · rintro ⟨⟨held, heldRecord, member, heldFound, rfl⟩, others⟩
      refine ⟨held, heldRecord, OrderedSet.mem_erase.2 ⟨member, ?_⟩, heldFound, rfl⟩
      intro same
      obtain ⟨rfl, rfl⟩ := Holding.mk.inj same
      have equal : record = heldRecord := Option.some.inj (found.symm.trans heldFound)
      exact others ⟨rfl, congrArg Record.key equal.symm⟩

/-- A record under the next number has a number of its own. -/
theorem ne_next {number : Nat} {record : Record} (found : ledger.record? number = some record) :
    number ≠ ledger.lastRecord + 1 :=
  fun same => absurd (same ▸ (coherent.number number record found).2) (Nat.not_succ_le_self _)

/-- A record with a new key under the next number. No role holds it yet. -/
theorem withRecord (record : Record) (fits : catalogue.Fits record.key)
    (missing : ledger.findRecord? record.key = none) :
    ledger.Becomes catalogue
      { ledger with
        records := ledger.records.insert (ledger.lastRecord + 1) record
        lastRecord := ledger.lastRecord + 1 } ledger.HoldsKey := by
  have kept : ∀ number other, ledger.record? number = some other →
      (ledger.records.insert (ledger.lastRecord + 1) record).get? number = some other := by
    intro number other found
    rw [OrderedMap.get?_insert_of_ne _ _ (coherent.ne_next found).symm]
    exact found
  have grows : ledger.Grows
      { ledger with
        records := ledger.records.insert (ledger.lastRecord + 1) record
        lastRecord := ledger.lastRecord + 1 } :=
    ⟨rfl, rfl, rfl, kept⟩
  refine ⟨⟨coherent.role, coherent.group, coherent.link,
    fun holding member => grows.refers (coherent.holding holding member), ?_, ?_, ?_⟩, grows, ?_⟩
  · intro first second one other firstFound secondFound same
    rcases OrderedMap.get?_insert_eq_some.1 firstFound with ⟨rfl, rfl⟩ | ⟨-, oldFirst⟩
    · rcases OrderedMap.get?_insert_eq_some.1 secondFound with ⟨rfl, -⟩ | ⟨-, oldSecond⟩
      · rfl
      · exact absurd same.symm (key_ne_of_findRecord? missing oldSecond)
    · rcases OrderedMap.get?_insert_eq_some.1 secondFound with ⟨-, rfl⟩ | ⟨-, oldSecond⟩
      · exact absurd same (key_ne_of_findRecord? missing oldFirst)
      · exact coherent.apart first second one other oldFirst oldSecond same
  · intro number other found
    rcases OrderedMap.get?_insert_eq_some.1 found with ⟨rfl, -⟩ | ⟨-, earlier⟩
    · exact ⟨Nat.succ_pos _, Nat.le_refl _⟩
    · obtain ⟨positive, given⟩ := coherent.number number other earlier
      exact ⟨positive, Nat.le_succ_of_le given⟩
  · intro number other found
    rcases OrderedMap.get?_insert_eq_some.1 found with ⟨-, rfl⟩ | ⟨-, earlier⟩
    · exact fits
    · exact coherent.fits number other earlier
  · intro role key
    constructor
    · rintro ⟨number, other, member, found, same⟩
      -- The new number is in no holding, since holdings refer to records that were there.
      obtain ⟨-, old, oldFound⟩ := coherent.holding _ member
      have equal := Option.some.inj ((kept number old oldFound).symm.trans found)
      exact ⟨number, other, member, equal ▸ oldFound, same⟩
    · rintro ⟨number, other, member, found, same⟩
      exact ⟨number, other, member, kept number other found, same⟩

/-- The record of a key, new or not, is no reason for any role to hold it. -/
theorem ensureRecord {key : RecordKey} (fits : catalogue.Fits key) (grantor : String)
    (now : Timestamp) :
    ledger.Becomes catalogue (ledger.ensureRecord key grantor now).2 ledger.HoldsKey ∧
      ∃ record, (ledger.ensureRecord key grantor now).2.record?
        (ledger.ensureRecord key grantor now).1 = some record ∧ record.key = key := by
  unfold Ledger.ensureRecord
  split
  · next number found => exact ⟨.refl coherent, record?_of_findRecord? found⟩
  · next missing =>
    refine ⟨coherent.withRecord ⟨key, grantor, now⟩ fits missing, ⟨key, grantor, now⟩,
      OrderedMap.get?_insert_self _ _ _, rfl⟩

theorem withHolding {role : String} (known : ledger.hasRole role = true) {key : RecordKey}
    (fits : catalogue.Fits key) (grantor : String) (now : Timestamp) :
    ledger.Becomes catalogue (ledger.withHolding role key grantor now) fun other held =>
      ledger.HoldsKey other held ∨ (other = Text.normalize role ∧ held = key) := by
  obtain ⟨ensured, record, found, rfl⟩ := coherent.ensureRecord fits grantor now
  have attached := ensured.coherent.attach ((ensured.grows.hasRole role).trans known) found
  refine (ensured.trans attached).congr fun other held => ?_
  rw [ensured.holdsKey]

/-- Several keys given to a role one after the other. -/
theorem foldl_withHolding {role : String} (known : ledger.hasRole role = true) {key : RecordKey}
    {actions : List Action}
    (fits : ∀ action ∈ actions, catalogue.Fits (key.withAction action.name)) (grantor : String)
    (now : Timestamp) :
    ledger.Becomes catalogue
      (actions.foldl (fun ledger action =>
        ledger.withHolding role (key.withAction action.name) grantor now) ledger)
      fun other held => ledger.HoldsKey other held ∨
        (other = Text.normalize role ∧ ∃ action ∈ actions, held = key.withAction action.name) := by
  induction actions generalizing ledger with
  | nil => exact (Becomes.refl coherent).congr fun other held => by simp
  | cons action rest inductionHypothesis =>
    have first := coherent.withHolding known (fits action List.mem_cons_self) grantor now
    have others := inductionHypothesis first.coherent ((first.grows.hasRole role).trans known)
      fun later member => fits later (List.mem_cons_of_mem _ member)
    refine (first.trans others).congr fun other held => ?_
    rw [first.holdsKey, List.exists_mem_cons_iff, or_assoc, ← and_or_left]

/-- A key taken from a role, if there is a record of it. -/
theorem withoutKey (role : String) (key : RecordKey) :
    ledger.Becomes catalogue
      (match ledger.findRecord? key with
        | some number => ledger.detach role number
        | none => ledger)
      fun other held => ledger.HoldsKey other held ∧
        ¬(other = Text.normalize role ∧ held = key) := by
  split
  · next number found =>
    obtain ⟨record, stored, rfl⟩ := record?_of_findRecord? found
    exact coherent.detach role stored
  · next missing =>
    refine (Becomes.refl coherent).congr fun other held => (and_iff_left_of_imp ?_).symm
    rintro ⟨number, record, -, found, same⟩ ⟨-, equal⟩
    exact key_ne_of_findRecord? missing found (same.trans equal)

theorem withoutActions (role : String) (key : RecordKey) (actions : List Action) :
    ledger.Becomes catalogue (ledger.withoutActions role key actions)
      fun other held => ledger.HoldsKey other held ∧
        ¬(other = Text.normalize role ∧ ∃ action ∈ actions, held = key.withAction action.name) := by
  unfold Ledger.withoutActions
  induction actions generalizing ledger with
  | nil => exact (Becomes.refl coherent).congr fun other held => by simp
  | cons action rest inductionHypothesis =>
    have first := coherent.withoutKey role (key.withAction action.name)
    refine (first.trans (inductionHypothesis first.coherent)).congr fun other held => ?_
    rw [first.holdsKey, List.exists_mem_cons_iff, and_assoc, ← not_or, ← and_or_left]

theorem holdsKey_eq_true {role : String} {key : RecordKey} :
    ledger.holdsKey role key = true ↔ ledger.HoldsKey (Text.normalize role) key := by
  unfold Ledger.holdsKey
  split
  · next number found =>
    obtain ⟨record, stored, rfl⟩ := record?_of_findRecord? found
    rw [coherent.holdsKey_iff_mem stored]
    exact OrderedSet.contains_iff
  · next missing =>
    refine iff_of_false (by decide) ?_
    rintro ⟨number, record, -, found, same⟩
    exact key_ne_of_findRecord? missing found same

end Coherent

/-! ### A key given to a role, a record taken from one -/

/-- What may come of giving a key to a role: the key takes the place of those for the members of
`all`, or it is not needed because the role holds the one for `all`, or it is added. -/
inductive Granted (catalogue : Catalogue) (ledger : Ledger) (name : String) (key : RecordKey)
    (all : Action) : Ledger → Prop where
  | whole {next : Ledger} (forAll : key.action = Action.allName)
      (becomes : ledger.Becomes catalogue next fun other held =>
        (ledger.HoldsKey other held ∧
          ¬(other = name ∧ ∃ member ∈ all.members, held = key.withAction member.name)) ∨
        (other = name ∧ held = key)) : Granted catalogue ledger name key all next
  | needless (single : key.action ≠ Action.allName)
      (held : ledger.HoldsKey name (key.withAction Action.allName)) :
      Granted catalogue ledger name key all ledger
  | added {next : Ledger} (single : key.action ≠ Action.allName)
      (lacking : ¬ledger.HoldsKey name (key.withAction Action.allName))
      (becomes : ledger.Becomes catalogue next fun other held =>
        ledger.HoldsKey other held ∨ (other = name ∧ held = key)) :
      Granted catalogue ledger name key all next

theorem Coherent.granted (coherent : ledger.Coherent catalogue) {role : String}
    (known : ledger.hasRole role = true) {key : RecordKey} (fits : catalogue.Fits key)
    {grantor : String} {now : Timestamp} {next : Ledger}
    (done : ledger.grantKey catalogue role key grantor now = .ok next) :
    ∃ all, catalogue.all key.component = .ok all ∧
      Granted catalogue ledger (Text.normalize role) key all next := by
  obtain ⟨all, isAll, done⟩ := bind_eq_ok.1 done
  obtain ⟨action, resolved, done⟩ := bind_eq_ok.1 done
  have forAll := fits.beq_all resolved isAll
  have allNamed := Vocabularies.name_of_all (StoreError.lift_eq_ok.1 isAll)
  refine ⟨all, isAll, ?_⟩
  split at done
  · next whole =>
    obtain rfl := pure_eq_ok.1 done
    have removed := coherent.withoutActions role key all.members
    have added := removed.coherent.withHolding ((removed.grows.hasRole role).trans known) fits
      grantor now
    refine .whole (forAll.1 whole) ((removed.trans added).congr fun other held => ?_)
    rw [removed.holdsKey]
  · next single =>
    rw [forAll] at single
    split at done
    · next held =>
      obtain rfl := pure_eq_ok.1 done
      rw [coherent.holdsKey_eq_true, allNamed] at held
      exact .needless single held
    · next lacking =>
      obtain rfl := pure_eq_ok.1 done
      rw [coherent.holdsKey_eq_true, allNamed] at lacking
      exact .added single lacking (coherent.withHolding known fits grantor now)

theorem Coherent.revokeRecord_eq (coherent : ledger.Coherent catalogue) {role : String}
    {action all : Action} {number : Nat} {record : Record}
    (found : ledger.record? number = some record)
    (isAll : catalogue.all record.key.component = .ok all) (grantor : String) (now : Timestamp) :
    ledger.revokeRecord catalogue role action number grantor now =
      .ok (if record.key.Yields action then
        (record.key.leftActions all action).foldl (fun ledger left =>
          ledger.withHolding role (record.key.withAction left.name) grantor now)
          (ledger.detach role number)
        else ledger) := by
  have fits := coherent.fits number record found
  obtain ⟨held, resolved, named⟩ := fits.action
  have whole : (action == all) = true ↔ action.name = Action.allName := by
    rw [Action.beq_iff, Vocabularies.name_of_all (StoreError.lift_eq_ok.1 isAll)]
  have forAll := fits.beq_all resolved isAll
  have forAction : (held == action) = true ↔ record.key.action = action.name := by
    rw [Action.beq_iff, named]
  unfold revokeRecord
  rw [found]
  dsimp only
  rw [isAll, resolved]
  show (if _ then _ else if _ then _ else if _ then _ else _) = _
  by_cases isWhole : action.name = Action.allName
  · rw [if_pos (whole.2 isWhole), if_pos (show record.key.Yields action from Or.inl isWhole),
      RecordKey.leftActions_eq_nil (Or.inl isWhole)]
    rfl
  rw [if_neg fun same => isWhole (whole.1 same)]
  by_cases keyWhole : record.key.action = Action.allName
  · rw [if_pos (forAll.2 keyWhole),
      if_pos (show record.key.Yields action from Or.inr (Or.inl keyWhole)),
      RecordKey.leftActions, if_pos ⟨keyWhole, isWhole⟩]
    rfl
  rw [if_neg fun same => keyWhole (forAll.1 same), RecordKey.leftActions_eq_nil (Or.inr keyWhole)]
  by_cases same : record.key.action = action.name
  · rw [if_pos (forAction.2 same),
      if_pos (show record.key.Yields action from Or.inr (Or.inr same))]
    rfl
  · have stays : ¬record.key.Yields action := by
      rintro (first | second | third) <;> contradiction
    rw [if_neg fun equal => same (forAction.1 equal), if_neg stays]
    rfl

/-- A role that loses a record and gets the actions that are left in its place. -/
theorem Coherent.replaced (coherent : ledger.Coherent catalogue)
    (registered : catalogue.Registered) {role : String} (known : ledger.hasRole role = true)
    {all : Action} {number : Nat} {record : Record} (found : ledger.record? number = some record)
    (isAll : catalogue.all record.key.component = .ok all) (action : Action) (grantor : String)
    (now : Timestamp) :
    ledger.Becomes catalogue
      ((record.key.leftActions all action).foldl (fun ledger left =>
        ledger.withHolding role (record.key.withAction left.name) grantor now)
        (ledger.detach role number))
      fun other key =>
        (ledger.HoldsKey other key ∧ ¬(other = Text.normalize role ∧ key = record.key)) ∨
        (other = Text.normalize role ∧ ∃ left ∈ record.key.leftActions all action,
          key = record.key.withAction left.name) := by
  have detached := coherent.detach role found
  have fits : ∀ left ∈ record.key.leftActions all action,
      catalogue.Fits (record.key.withAction left.name) := fun left isLeft =>
    (coherent.fits number record found).withMember registered isAll
      (RecordKey.mem_leftActions.1 isLeft).2.2.1
  have replaced := detached.coherent.foldl_withHolding ((detached.grows.hasRole role).trans known)
    fits grantor now
  refine (detached.trans replaced).congr fun other key => ?_
  rw [detached.holdsKey]

/-- What taking an action from a record does. It never fails, and it touches one role and one key
only. -/
theorem Coherent.revokeRecord_becomes (coherent : ledger.Coherent catalogue)
    (registered : catalogue.Registered) {role : String} (known : ledger.hasRole role = true)
    {all : Action} {number : Nat} {record : Record} (found : ledger.record? number = some record)
    (isAll : catalogue.all record.key.component = .ok all) (action : Action) (grantor : String)
    (now : Timestamp) :
    ∃ next, ledger.revokeRecord catalogue role action number grantor now = .ok next ∧
      ledger.Becomes catalogue next fun other key =>
        (ledger.HoldsKey other key ∧
          ¬(other = Text.normalize role ∧ key = record.key ∧ record.key.Yields action)) ∨
        (other = Text.normalize role ∧ ∃ left ∈ record.key.leftActions all action,
          key = record.key.withAction left.name) := by
  refine ⟨_, coherent.revokeRecord_eq found isAll grantor now, ?_⟩
  split
  · next yields =>
    have replaced := coherent.replaced registered known found isAll action grantor now
    refine replaced.congr fun other key => ?_
    simp only [yields, and_true]
  · next stays =>
    have nothing : record.key.leftActions all action = [] :=
      RecordKey.leftActions_eq_nil (Or.inr fun whole => stays (Or.inr (Or.inl whole)))
    refine (Becomes.refl coherent).congr fun other key => ?_
    simp [nothing, stays]

/-- What may come of taking a record from a role: nothing, or the role loses it, or it gets the
members of `all` that are left in its place. -/
inductive Revoked (catalogue : Catalogue) (ledger : Ledger) (name : String) : Ledger → Prop where
  | kept : Revoked catalogue ledger name ledger
  | lost {next : Ledger} (key : RecordKey)
      (becomes : ledger.Becomes catalogue next fun other held =>
        ledger.HoldsKey other held ∧ ¬(other = name ∧ held = key)) :
      Revoked catalogue ledger name next
  | replaced {next : Ledger} {key : RecordKey} {all : Action} {left : List Action}
      (forAll : key.action = Action.allName) (isAll : catalogue.all key.component = .ok all)
      (members : ∀ member ∈ left, member ∈ all.members)
      (becomes : ledger.Becomes catalogue next fun other held =>
        (ledger.HoldsKey other held ∧ ¬(other = name ∧ held = key)) ∨
        (other = name ∧ ∃ member ∈ left, held = key.withAction member.name)) :
      Revoked catalogue ledger name next

theorem Coherent.revoked (coherent : ledger.Coherent catalogue)
    (registered : catalogue.Registered) {role : String} (known : ledger.hasRole role = true)
    {action : Action} {number : Nat} {grantor : String} {now : Timestamp} {next : Ledger}
    (done : ledger.revokeRecord catalogue role action number grantor now = .ok next) :
    Revoked catalogue ledger (Text.normalize role) next := by
  cases found : ledger.record? number with
  | none =>
    rw [revokeRecord, found] at done
    obtain rfl := pure_eq_ok.1 done
    exact .kept
  | some record =>
    obtain ⟨all, isAll⟩ := (coherent.fits number record found).all
    have replaced := coherent.replaced registered known found isAll action grantor now
    rw [coherent.revokeRecord_eq found isAll] at done
    obtain rfl := Except.ok.inj done
    split
    · by_cases forAll : record.key.action = Action.allName
      · exact .replaced forAll isAll (fun left isLeft => (RecordKey.mem_leftActions.1 isLeft).2.2.1)
          replaced
      · refine .lost record.key (replaced.congr fun other key => ?_)
        rw [RecordKey.leftActions_eq_nil (Or.inr forAll)]
        simp
    · exact .kept

theorem Granted.coherent_grows {name : String} {key : RecordKey} {all : Action} {next : Ledger}
    (granted : Granted catalogue ledger name key all next) (coherent : ledger.Coherent catalogue) :
    next.Coherent catalogue ∧ ledger.Grows next := by
  cases granted with
  | whole _ becomes => exact ⟨becomes.coherent, becomes.grows⟩
  | needless => exact ⟨coherent, .refl ledger⟩
  | added _ _ becomes => exact ⟨becomes.coherent, becomes.grows⟩

/-- A role holds no other keys after a grant than before it, but for the one that was granted. -/
theorem Granted.holds_or_eq {name : String} {key : RecordKey} {all : Action} {next : Ledger}
    (granted : Granted catalogue ledger name key all next) {other : String} {held : RecordKey}
    (holds : next.HoldsKey other held) :
    ledger.HoldsKey other held ∨ (other = name ∧ held = key) := by
  cases granted with
  | whole _ becomes =>
    rcases (becomes.holdsKey other held).1 holds with ⟨earlier, -⟩ | isNew
    · exact Or.inl earlier
    · exact Or.inr isNew
  | needless => exact Or.inl holds
  | added _ _ becomes => exact (becomes.holdsKey other held).1 holds

theorem Revoked.coherent_grows {name : String} {next : Ledger}
    (revoked : Revoked catalogue ledger name next) (coherent : ledger.Coherent catalogue) :
    next.Coherent catalogue ∧ ledger.Grows next := by
  cases revoked with
  | kept => exact ⟨coherent, .refl ledger⟩
  | lost _ becomes => exact ⟨becomes.coherent, becomes.grows⟩
  | replaced _ _ _ becomes => exact ⟨becomes.coherent, becomes.grows⟩

end Ledger

end Entitlement
