/-
This file proves that the order of several grants to a role makes no difference to what the role
holds. A grant may add a record, be skipped, or take the place of records that were granted before
it, and which of these happens depends on what came first. After all of them, in components in which
`all` lists every other action, the role holds what is settled of the keys that it held at the
beginning and those that it was granted, and these two do not depend on the order.
-/

import Entitlement.Proofs.Moving
import Entitlement.Proofs.Refusing

namespace Entitlement

/-- A privilege to be granted, who grants it and when. -/
structure Grant where
  privilege : Privilege
  grantor : String
  now : Timestamp

namespace Catalogue

/-- Whether the key is that of one of the privileges. -/
def IsKeyOf (catalogue : Catalogue) (privileges : List Privilege) (key : RecordKey) : Prop :=
  ∃ privilege ∈ privileges, catalogue.toKey privilege = .ok key

/-- Whether the privilege can be granted, in a component in which `all` lists every other action. -/
structure Grantable (catalogue : Catalogue) (privilege : Privilege) : Prop where
  accepted : ∃ key, catalogue.toKey privilege = .ok key
  lists : catalogue.ListsAll privilege.component

end Catalogue

namespace Ledger

/-- The privileges granted to a role one after the other. -/
def grantEach (ledger : Ledger) (catalogue : Catalogue) (role : String) (grants : List Grant) :
    Edited :=
  Edited.each (fun ledger given =>
    (ledger.grant catalogue role given.privilege given.grantor given.now).result) ledger grants

/-- How a ledger stands after a role was given some keys and nothing else was done. -/
structure Received (catalogue : Catalogue) (start : Ledger) (name : String)
    (given : RecordKey → Prop) (ledger : Ledger) : Prop where
  coherent : ledger.Coherent catalogue
  grown : start.Grows ledger
  fits : ∀ key, given key → catalogue.Fits key
  settled : ∀ key, ledger.HoldsKey name key ↔
    catalogue.Settled (fun other => start.HoldsKey name other ∨ given other) key
  others : ∀ other, other ≠ name → ∀ key, ledger.HoldsKey other key ↔ start.HoldsKey other key

variable {catalogue : Catalogue} {start ledger next : Ledger}

namespace Received

/-- Before anything was given. -/
theorem begin (coherent : start.Coherent catalogue) (exclusive : start.Exclusive catalogue)
    (name : String) : start.Received catalogue name (fun _ => False) start where
  coherent := coherent
  grown := .refl start
  fits _ := False.elim
  settled key := by
    simp only [or_false]
    exact (exclusive.settled coherent name key).symm
  others _ _ _ := Iff.rfl

theorem congr {name : String} {given also : RecordKey → Prop}
    (same : ∀ key, given key ↔ also key)
    (received : start.Received catalogue name given ledger) :
    start.Received catalogue name also ledger := by
  obtain rfl : given = also := funext fun key => propext (same key)
  exact received

/-- The next key is given. -/
theorem give (registered : catalogue.Registered) (starts : start.Coherent catalogue)
    {name : String} {given : RecordKey → Prop}
    (received : start.Received catalogue name given ledger) {key : RecordKey} {all : Action}
    (fits : catalogue.Fits key) (isAll : catalogue.all key.component = .ok all)
    (lists : catalogue.ListsAll key.component)
    (granted : Granted catalogue ledger name key all next) :
    start.Received catalogue name (fun other => given other ∨ other = key) next := by
  obtain ⟨coherentNext, grows⟩ := granted.coherent_grows received.coherent
  have fit : ∀ other, start.HoldsKey name other ∨ given other → catalogue.Fits other := by
    rintro other (held | isGiven)
    · exact starts.fits_of_holdsKey held
    · exact received.fits other isGiven
  refine ⟨coherentNext, received.grown.trans grows, ?_, fun other => ?_, fun other apart held => ?_⟩
  · rintro other (isGiven | rfl)
    · exact received.fits other isGiven
    · exact fits
  · rw [granted.settled registered isAll lists fit received.settled]
    exact Catalogue.settled_congr (fun _ => or_assoc) other
  · rw [granted.holdsKey_other apart, received.others other apart]

/-- Two ledgers in which a role was given the same keys hold the same. -/
theorem holdsKey_eq {name : String} {given : RecordKey → Prop} {other : Ledger}
    (received : start.Received catalogue name given ledger)
    (also : start.Received catalogue name given other) (role : String) (key : RecordKey) :
    ledger.HoldsKey role key ↔ other.HoldsKey role key := by
  by_cases same : role = name
  · rw [same, received.settled, also.settled]
  · rw [received.others role same, also.others role same]

end Received

/-- Privileges that can be granted all are, and then the role has received their keys. -/
theorem Received.each (registered : catalogue.Registered) (starts : start.Coherent catalogue)
    {role : String} (known : start.hasRole role = true) {grants : List Grant}
    (grantable : ∀ privilege ∈ grants.map Grant.privilege, catalogue.Grantable privilege)
    {earlier : RecordKey → Prop}
    (received : start.Received catalogue (Text.normalize role) earlier ledger) :
    ∃ next, ledger.grantEach catalogue role grants = ⟨next, none⟩ ∧
      start.Received catalogue (Text.normalize role)
        (fun key => earlier key ∨ catalogue.IsKeyOf (grants.map Grant.privilege) key) next := by
  -- The keys given earlier grow with each grant, while the ledger at the start stays the same.
  induction grants generalizing ledger earlier with
  | nil => exact ⟨ledger, rfl, received.congr fun key => by simp [Catalogue.IsKeyOf]⟩
  | cons first rest inductionHypothesis =>
    rw [List.map_cons, List.forall_mem_cons] at grantable
    obtain ⟨⟨⟨key, keyed⟩, lists⟩, others⟩ := grantable
    have knownHere : ledger.hasRole role = true := (received.grown.hasRole role).trans known
    obtain ⟨middle, ended⟩ := exists_grant_of_toKey registered knownHere keyed first.grantor
      first.now
    have done : (ledger.grant catalogue role first.privilege first.grantor first.now).result =
        .ok middle := congrArg Edited.result ended
    obtain ⟨same, all, sameKeyed, fits, isAll, granted⟩ :=
      received.coherent.granted_of_grant registered done
    obtain rfl : key = same := Except.ok.inj (keyed.symm.trans sameKeyed)
    obtain ⟨action, path, -, -, isKey⟩ := Catalogue.toKey_eq_ok.1 keyed
    have listed : catalogue.ListsAll key.component := by
      rw [← isKey]
      exact lists
    obtain ⟨next, walked, after⟩ := inductionHypothesis others
      (received.give registered starts fits isAll listed granted)
    refine ⟨next, ?_, after.congr fun other => ?_⟩
    · rw [grantEach, Edited.each, done]
      exact walked
    · have isFirst : other = key ↔ catalogue.toKey first.privilege = .ok other := by
        rw [keyed, Except.ok.injEq, eq_comm]
      rw [or_assoc, isFirst, Catalogue.IsKeyOf, Catalogue.IsKeyOf, List.map_cons,
        List.exists_mem_cons_iff]

/-- Nothing is granted to a role that does not exist. -/
theorem grantEach_of_unknown {role : String} (unknown : ledger.hasRole role = false)
    (grants : List Grant) : (ledger.grantEach catalogue role grants).ledger = ledger := by
  cases grants with
  | nil => rfl
  | cons first rest =>
    have refused : (ledger.grant catalogue role first.privilege first.grantor first.now).result =
        .error (.noSuchObject ("role " ++ Text.normalize role)) := by
      rw [Ledger.grant, requireRole_of_unknown unknown]
      rfl
    rw [grantEach, Edited.each, refused]

/-- Roles that hold the same keys have equal privileges. -/
theorem Coherent.privilegesOfRoles_congr (coherent : ledger.Coherent catalogue)
    (coherentNext : next.Coherent catalogue) {roles : OrderedSet String}
    (same : ∀ role key, ledger.HoldsKey role key ↔ next.HoldsKey role key) :
    ∃ held heldNext, ledger.privilegesOfRoles catalogue roles = .ok held ∧
      next.privilegesOfRoles catalogue roles = .ok heldNext ∧
      ∀ privilege, held.contains privilege = heldNext.contains privilege := by
  obtain ⟨held, read, has⟩ := coherent.exists_privilegesOfRoles roles
  obtain ⟨heldNext, readNext, hasNext⟩ := coherentNext.exists_privilegesOfRoles roles
  refine ⟨held, heldNext, read, readNext, fun privilege => ?_⟩
  have respects : ∀ one other : Privilege, (one == other) = true →
      (privilege == one) = true → (privilege == other) = true :=
    fun _ _ equal first => Privilege.beq_trans first equal
  rw [Bool.eq_iff_iff, List.contains_iff_exists_mem_beq, List.contains_iff_exists_mem_beq,
    has _ respects, hasNext _ respects]
  simp only [same]

/-- Privileges that can be granted all are, in any order, if the role exists. Then it holds what is
settled of the keys that it held and those of the privileges. The order of the grants makes no
difference to what any role holds. -/
theorem grants_commute (registered : catalogue.Registered) (reached : Reachable catalogue ledger)
    (role : String) {privileges : List Privilege}
    (grantable : ∀ privilege ∈ privileges, catalogue.Grantable privilege)
    {first second : List Grant} (isOrder : (first.map Grant.privilege).Perm privileges)
    (isAlso : (second.map Grant.privilege).Perm privileges) :
    let one := ledger.grantEach catalogue role first
    let other := ledger.grantEach catalogue role second
    let name := Text.normalize role
    (ledger.hasRole role = true → one.failure = none ∧ other.failure = none ∧
      ∀ key, one.ledger.HoldsKey name key ↔ catalogue.Settled
        (fun key => ledger.HoldsKey name key ∨ catalogue.IsKeyOf privileges key) key) ∧
      (∀ role key, one.ledger.HoldsKey role key ↔ other.ledger.HoldsKey role key) ∧
      ∀ roles, ∃ held heldOther,
        one.ledger.privilegesOfRoles catalogue roles = .ok held ∧
        other.ledger.privilegesOfRoles catalogue roles = .ok heldOther ∧
        ∀ privilege, held.contains privilege = heldOther.contains privilege := by
  dsimp only
  have coherent := reached.coherent registered
  cases known : ledger.hasRole role with
  | false =>
    rw [grantEach_of_unknown known first, grantEach_of_unknown known second]
    exact ⟨fun isKnown => (Bool.false_ne_true isKnown).elim, fun _ _ => Iff.rfl, fun _ =>
      coherent.privilegesOfRoles_congr coherent fun _ _ => Iff.rfl⟩
  | true =>
    have begun := Received.begin coherent (reachable_exclusive registered reached)
      (Text.normalize role)
    have ends : ∀ {grants : List Grant}, (grants.map Grant.privilege).Perm privileges →
        ∃ next, ledger.grantEach catalogue role grants = ⟨next, none⟩ ∧
          ledger.Received catalogue (Text.normalize role) (catalogue.IsKeyOf privileges) next := by
      intro grants isOrder
      obtain ⟨next, ended, received⟩ := begun.each registered coherent known
        fun privilege member => grantable privilege (isOrder.mem_iff.1 member)
      refine ⟨next, ended, received.congr fun key => ?_⟩
      rw [false_or, Catalogue.IsKeyOf, Catalogue.IsKeyOf]
      simp only [isOrder.mem_iff]
    obtain ⟨one, ended, received⟩ := ends isOrder
    obtain ⟨other, alsoEnded, also⟩ := ends isAlso
    rw [ended, alsoEnded]
    exact ⟨fun _ => ⟨rfl, rfl, received.settled⟩, received.holdsKey_eq also, fun _ =>
      received.coherent.privilegesOfRoles_congr also.coherent (received.holdsKey_eq also)⟩

/-- The clerks of an archive may read and are granted everything in the middle of other grants, in
one order and in the opposite one. The records differ and the privileges do not. -/
theorem grants_commute_archive :
    ∃ (ledger : Ledger) (grants : List Grant),
      Reachable Catalogue.archive ledger ∧
      ledger.hasRole "Clerks" = true ∧
      (grants.map fun given => given.privilege.action) = ["mend", "all", "read"] ∧
      let one := ledger.grantEach Catalogue.archive "Clerks" grants
      let other := ledger.grantEach Catalogue.archive "Clerks" grants.reverse
      one.ledger.holdings.elements = [⟨"clerks", 3⟩] ∧
      other.ledger.holdings.elements = [⟨"clerks", 2⟩] ∧
      one.failure = none ∧ other.failure = none ∧
      ∀ name key, one.ledger.HoldsKey name key ↔ other.ledger.HoldsKey name key := by
  let giving (action : String) : Grant :=
    ⟨{ libraryPrivilege action with component := "archive" }, "olga", default⟩
  let grants := [giving "mend", giving "all", giving "read"]
  let named := (Operation.createRole "Clerks" default).apply Catalogue.archive empty
  let reading := (Operation.grant "Clerks" (giving "read").privilege "olga" default).apply
    Catalogue.archive named.ledger
  have reached : Reachable Catalogue.archive reading.ledger := .apply (.apply .empty _) _
  have known : reading.ledger.hasRole "Clerks" = true := by decide +kernel
  have grantable : ∀ privilege ∈ grants.map Grant.privilege,
      Catalogue.archive.Grantable privilege := by
    intro privilege member
    have keyed : ∀ privilege ∈ grants.map Grant.privilege,
        (Catalogue.archive.toKey privilege).toOption.isSome = true ∧
          privilege.component = "archive" := by
      decide +kernel
    obtain ⟨isSome, isArchive⟩ := keyed privilege member
    refine ⟨?_, isArchive ▸ Catalogue.listsAll_archive⟩
    cases result : Catalogue.archive.toKey privilege with
    | ok key => exact ⟨key, rfl⟩
    | error reason =>
      rw [result] at isSome
      cases isSome
  obtain ⟨succeed, same, -⟩ := grants_commute Catalogue.registered_archive reached "Clerks"
    grantable (.refl _) ((List.reverse_perm grants).map _)
  obtain ⟨ended, alsoEnded, -⟩ := succeed known
  refine ⟨reading.ledger, grants, reached, known, rfl, ?_, ?_, ended, alsoEnded, same⟩
  · decide +kernel
  · decide +kernel

end Ledger

end Entitlement
