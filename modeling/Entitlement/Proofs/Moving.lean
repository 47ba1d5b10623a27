/-
This file says key by key what a rename leaves to the roles. A key under the old path has an image
under the new one, any other key is its own image, and a role holds the images of its keys. The
exception are images that give way to `all`. They can meet it at the new path, where the role may
hold it already, and then it does not matter which of the two was moved first.
-/

import Entitlement.Proofs.Lowered
import Entitlement.Proofs.Settling
import Entitlement.Proofs.Withdrawing

namespace Entitlement

/-! ### Images of keys -/

namespace Catalogue

variable {catalogue : Catalogue} {target : Target} {replacement : List Step}

/-- Whether a key becomes another one: those that the target includes get other leading steps. -/
def Image (catalogue : Catalogue) (target : Target) (replacement : List Step)
    (key image : RecordKey) : Prop :=
  (target.Includes catalogue key ∧ catalogue.Moves replacement key image) ∨
    (¬target.Includes catalogue key ∧ image = key)

theorem Moves.unique {key moved other : RecordKey} (moves : catalogue.Moves replacement key moved)
    (again : catalogue.Moves replacement key other) : moved = other := by
  obtain ⟨steps, path, decoded, encoded, rfl⟩ := moves
  obtain ⟨same, equal, sameDecoded, sameEncoded, rfl⟩ := again
  obtain rfl : steps = same := Except.ok.inj (decoded.symm.trans sameDecoded)
  obtain rfl : path = equal := Except.ok.inj (encoded.symm.trans sameEncoded)
  rfl

/-- Only the path of a key is changed. -/
theorem Moves.eq_withPath {key moved : RecordKey} (moves : catalogue.Moves replacement key moved) :
    moved = { key with path := moved.path } := by
  obtain ⟨_, _, -, -, rfl⟩ := moves
  rfl

theorem Moves.fits {key moved : RecordKey} (moves : catalogue.Moves replacement key moved)
    (fits : catalogue.Fits key) : catalogue.Fits moved := by
  obtain ⟨_, _, -, encoded, rfl⟩ := moves
  exact fits.moved encoded

theorem Image.eq_withPath {key image : RecordKey}
    (isImage : catalogue.Image target replacement key image) :
    image = { key with path := image.path } := by
  rcases isImage with ⟨-, moves⟩ | ⟨-, rfl⟩
  · exact moves.eq_withPath
  · rfl

theorem Image.unique {key image other : RecordKey}
    (isImage : catalogue.Image target replacement key image)
    (again : catalogue.Image target replacement key other) : image = other := by
  rcases isImage with ⟨includes, moves⟩ | ⟨outside, rfl⟩
  · rcases again with ⟨-, movesAgain⟩ | ⟨outside, -⟩
    · exact moves.unique movesAgain
    · exact absurd includes outside
  · rcases again with ⟨includes, -⟩ | ⟨-, rfl⟩
    · exact absurd includes outside
    · rfl

end Catalogue

/-! ### A path that is replaced by itself -/

/-- Leading steps in lower case that are replaced by the same ones give the same path. -/
theorem samePath_replaceSteps {begin replacement steps : List Step}
    (same : (begin == replacement) = true) (begins : begin.isPrefixOf steps = true)
    (lowered : replacement.map Step.lowered = replacement) (low : steps.map Step.lowered = steps) :
    SamePath steps (Ledger.replaceSteps replacement steps) := by
  rw [Step.map_lowered_eq_self] at lowered low
  induction replacement generalizing begin steps with
  | nil =>
    have unchanged : Ledger.replaceSteps [] steps = steps := by simp [Ledger.replaceSteps]
    rw [unchanged]
    exact List.forall₂_same.2 fun step _ => ⟨rfl, Text.sameAsciiCase_refl _⟩
  | cons first rest inductionHypothesis =>
    cases begin with
    | nil => cases same
    | cons step others =>
      cases steps with
      | nil => cases begins
      | cons found further =>
        rw [List.cons_beq_cons, Bool.and_eq_true] at same
        rw [List.isPrefixOf, Bool.and_eq_true] at begins
        rw [List.forall_mem_cons] at lowered low
        obtain ⟨types, names⟩ := Step.beq_iff.1 same.1
        obtain ⟨foundTypes, foundNames⟩ := Step.beq_iff.1 begins.1
        refine .cons ⟨?_, ?_⟩ (inductionHypothesis same.2 begins.2 lowered.2 low.2)
        · refine Text.eq_of_sameAsciiCase lowered.1 low.1 ?_
          exact Text.sameAsciiCase_trans (Text.sameAsciiCase_comm .. ▸ names) foundNames
        · exact Text.sameAsciiCase_trans (Text.sameAsciiCase_comm .. ▸ foundTypes) types

/-- A key in lower case that is moved from a path to the same one stays as it is. -/
theorem Catalogue.Moves.eq_self {catalogue : Catalogue} {target : Target}
    {replacement : List Step} {key moved : RecordKey}
    (moves : catalogue.Moves replacement key moved) (includes : target.Includes catalogue key)
    (fits : catalogue.Fits key) (lowKey : key.Lowered)
    (same : (target.steps == replacement) = true)
    (lowered : replacement.map Step.lowered = replacement) : moved = key := by
  obtain ⟨steps, path, decoded, encoded, rfl⟩ := moves
  obtain ⟨begun, begunDecoded, begins⟩ := includes.path
  obtain rfl : steps = begun := Except.ok.inj (decoded.symm.trans begunDecoded)
  obtain ⟨again, againDecoded, stored⟩ := fits.path
  obtain rfl : steps = again := Except.ok.inj (decoded.symm.trans againDecoded)
  have respelled := samePath_replaceSteps same begins lowered
    (Catalogue.map_lowered_of_decode lowKey.names decoded)
  have storedAgain := Hierarchies.encode_respelled respelled (StoreError.lift_eq_ok.1 stored)
  obtain rfl : key.path = path :=
    Except.ok.inj (storedAgain.symm.trans (StoreError.lift_eq_ok.1 encoded))
  rfl

/-! ### Some of the keys moved -/

namespace Catalogue

variable {catalogue : Catalogue} {target : Target} {replacement : List Step}

/-- The keys after some of them were moved: the other ones, and what became of these. -/
def Shifted (catalogue : Catalogue) (replacement : List Step) (held done : RecordKey → Prop)
    (key : RecordKey) : Prop :=
  (held key ∧ ¬done key) ∨ ∃ origin, done origin ∧ catalogue.Moves replacement origin key

/-- When one more key is moved, it is taken out of the keys and the key that it becomes is put in
their place. -/
theorem shifted_move {held done : RecordKey → Prop} {key moved : RecordKey}
    (moves : catalogue.Moves replacement key moved)
    (arrived : ∀ origin image, done origin ∨ origin = key →
      catalogue.Moves replacement origin image → image ≠ key) (other : RecordKey) :
    (catalogue.Shifted replacement held done other ∧ other ≠ key) ∨ other = moved ↔
      catalogue.Shifted replacement held (fun origin => done origin ∨ origin = key) other := by
  constructor
  · rintro (⟨⟨isHeld, waiting⟩ | ⟨origin, isDone, becomes⟩, apart⟩ | rfl)
    · exact Or.inl ⟨isHeld, not_or.2 ⟨waiting, apart⟩⟩
    · exact Or.inr ⟨origin, Or.inl isDone, becomes⟩
    · exact Or.inr ⟨key, Or.inr rfl, moves⟩
  · rintro (⟨isHeld, waiting⟩ | ⟨origin, isDone | rfl, becomes⟩)
    · obtain ⟨waiting, apart⟩ := not_or.1 waiting
      exact Or.inl ⟨Or.inl ⟨isHeld, waiting⟩, apart⟩
    · exact Or.inl ⟨Or.inr ⟨origin, isDone, becomes⟩, arrived origin other (Or.inl isDone) becomes⟩
    · exact Or.inr (becomes.unique moves)

/-- When all keys that the target includes were moved, what there is are the images. -/
theorem shifted_iff_image {held done : RecordKey → Prop}
    (isDone : ∀ key, done key ↔ held key ∧ target.Includes catalogue key) (image : RecordKey) :
    catalogue.Shifted replacement held done image ↔
      ∃ key, held key ∧ catalogue.Image target replacement key image := by
  constructor
  · rintro (⟨isHeld, waiting⟩ | ⟨origin, moved, moves⟩)
    · exact ⟨image, isHeld, Or.inr ⟨fun includes => waiting ((isDone image).2 ⟨isHeld, includes⟩),
        rfl⟩⟩
    · obtain ⟨isHeld, includes⟩ := (isDone origin).1 moved
      exact ⟨origin, isHeld, Or.inl ⟨includes, moves⟩⟩
  · rintro ⟨key, isHeld, ⟨includes, moves⟩ | ⟨outside, rfl⟩⟩
    · exact Or.inr ⟨key, (isDone key).2 ⟨isHeld, includes⟩, moves⟩
    · exact Or.inl ⟨isHeld, fun moved => outside ((isDone _).1 moved).2⟩

end Catalogue

/-! ### A catalogue of two components -/

/-- The library with an archive, in which `all` lists both of the other actions. -/
def Catalogue.archive : Catalogue where
  vocabularies :=
    match Vocabulary.build "archive" ["read", "mend"] [("all", ["read", "mend"])] with
    | .ok vocabulary => Catalogue.library.vocabularies.register vocabulary
    | .error _ => Catalogue.library.vocabularies
  hierarchies := Catalogue.library.hierarchies.register "archive" ["shelf", "book"]

theorem Catalogue.registered_archive : Catalogue.archive.Registered := by
  unfold Registered archive
  dsimp only
  split
  · next vocabulary built => exact .register registered_library built
  · exact registered_library

theorem Catalogue.listsAll_archive : Catalogue.archive.ListsAll "archive" := by
  refine listsAll_of_entries (show Catalogue.archive.vocabularies.component "archive" = .ok _
    from rfl) ?_
  decide +kernel

namespace Ledger

variable {catalogue : Catalogue} {start ledger next : Ledger} {target : Target}
  {replacement : List Step} {moved : String → RecordKey → Prop}

/-- How a ledger stands in the middle of a rename, when some of the keys have been moved. -/
structure Underway (catalogue : Catalogue) (start : Ledger) (target : Target)
    (replacement : List Step) (moved : String → RecordKey → Prop) (ledger : Ledger) : Prop where
  coherent : ledger.Coherent catalogue
  grown : start.Grows ledger
  chosen : ∀ role key, moved role key → start.HoldsKey role key ∧ target.Includes catalogue key
  arrived : ∀ role key, moved role key → ∃ image, catalogue.Moves replacement key image
  settled : ∀ role key, ledger.HoldsKey role key ↔
    catalogue.Settled (catalogue.Shifted replacement (start.HoldsKey role) (moved role)) key

/-- Before anything was moved. -/
theorem Underway.begin (coherent : start.Coherent catalogue)
    (exclusive : start.Exclusive catalogue) :
    Underway catalogue start target replacement (fun _ _ => False) start where
  coherent := coherent
  grown := .refl start
  chosen _ _ impossible := impossible.elim
  arrived _ _ impossible := impossible.elim
  settled role key := by
    rw [← exclusive.settled coherent role key]
    refine Catalogue.settled_congr (fun other => ?_) key
    simp [Catalogue.Shifted]

section Moved

variable (registered : catalogue.Registered) (exclusive : start.Exclusive catalogue)
  (begun : start.Coherent catalogue) (lists : catalogue.ListsAll target.component)
  (long : target.steps.length = replacement.length)
  (apart : (target.steps == replacement) = false)

include registered exclusive begun lists long apart

/-- One more holding is moved. -/
theorem Underway.move (underway : Underway catalogue start target replacement moved ledger)
    {holding : Holding} (isHolding : holding ∈ start.holdings) {record : Record}
    (found : start.record? holding.record = some record)
    (includes : target.Includes catalogue record.key) {all : Action}
    (isAll : catalogue.all target.component = .ok all) {now : Timestamp}
    (done : ledger.moveHolding catalogue target.component all replacement now holding =
      .ok next) :
    Underway catalogue start target replacement
      (fun role key => moved role key ∨ (role = holding.role ∧ key = record.key)) next := by
  have known := (underway.grown.hasRole _).trans (begun.hasRole_of_mem isHolding)
  obtain ⟨image, middle, moves, becomes, granted⟩ := underway.coherent.moveHolding_granted
    registered known (underway.grown.record _ record found) includes.component isAll done
  rw [begun.normalize_of_mem isHolding] at becomes granted
  have isHeld : start.HoldsKey holding.role record.key :=
    ⟨holding.record, record, isHolding, found, rfl⟩
  have leaves : ∀ {origin other : RecordKey}, target.Includes catalogue origin →
      catalogue.Moves replacement origin other → ¬target.Includes catalogue other :=
    fun under becomes still => becomes.not_includes long apart (Target.includes_iff.2 under)
      (Target.includes_iff.2 still)
  obtain ⟨coherentNext, grows⟩ := granted.coherent_grows becomes.coherent
  refine ⟨coherentNext, underway.grown.trans (becomes.grows.trans grows), ?_, ?_, ?_⟩
  · rintro role key (earlier | ⟨rfl, rfl⟩)
    · exact underway.chosen role key earlier
    · exact ⟨isHeld, includes⟩
  · rintro role key (earlier | ⟨rfl, rfl⟩)
    · exact underway.arrived role key earlier
    · exact ⟨image, moves⟩
  intro role key
  by_cases other : role ≠ holding.role
  · rw [granted.holdsKey_other other, becomes.holdsKey, underway.settled]
    simp [other]
  obtain rfl := Decidable.not_not.1 other
  -- The key that is taken out absorbs nothing: the role held no member together with it, and what
  -- has been moved is not under the old path.
  have needed : ∀ key, catalogue.Shifted replacement (start.HoldsKey holding.role)
      (moved holding.role) key →
      catalogue.Absorbed (catalogue.Shifted replacement (start.HoldsKey holding.role)
        (moved holding.role)) key → key.withAction Action.allName ≠ record.key := by
    rintro key isKey ⟨listed, single, -⟩ whole
    rcases isKey with ⟨holds, -⟩ | ⟨origin, isMoved, becomes⟩
    · refine ((exclusive.settled begun _ key).2 holds).2 ⟨listed, single, ?_⟩
      rw [whole]
      exact isHeld
    · refine leaves (underway.chosen _ origin isMoved).2 becomes ?_
      have under := includes.withAction key.action
      rwa [← whole, RecordKey.withAction_withAction, RecordKey.withAction_self] at under
  have taken : ∀ key, middle.HoldsKey holding.role key ↔ catalogue.Settled (fun other =>
      catalogue.Shifted replacement (start.HoldsKey holding.role) (moved holding.role) other ∧
        other ≠ record.key) key := by
    intro key
    rw [becomes.holdsKey, underway.settled, ← Catalogue.settled_remove needed key]
    simp
  have component : image.component = target.component := by
    rw [moves.eq_withPath]
    exact includes.component
  rw [granted.settled registered (component ▸ isAll) (component ▸ lists) ?_ taken]
  · refine Catalogue.settled_congr (fun other => ?_) key
    rw [Catalogue.shifted_move moves]
    · simp [Catalogue.Shifted]
    · rintro origin other (isMoved | rfl) becomes rfl
      · exact leaves (underway.chosen _ origin isMoved).2 becomes includes
      · exact leaves includes becomes includes
  · rintro other ⟨⟨holds, -⟩ | ⟨origin, isMoved, becomes⟩, -⟩
    · exact begun.fits_of_holdsKey holds
    · exact becomes.fits (begun.fits_of_holdsKey (underway.chosen _ origin isMoved).1)

/-- Several holdings are moved one after the other. -/
theorem Underway.foldlM (underway : Underway catalogue start target replacement moved ledger)
    {holdings : List Holding}
    (members : ∀ holding ∈ holdings, holding ∈ start.holdings ∧
      ∃ record, start.record? holding.record = some record ∧ target.Includes catalogue record.key)
    {all : Action} (isAll : catalogue.all target.component = .ok all) {now : Timestamp}
    (folded : holdings.foldlM (fun ledger holding => ledger.moveHolding catalogue target.component
      all replacement now holding) ledger = .ok next) :
    Underway catalogue start target replacement
      (fun role key => moved role key ∨ start.HoldsKeyBy holdings role key) next := by
  induction holdings generalizing ledger moved with
  | nil =>
    obtain rfl := pure_eq_ok.1 folded
    simpa [HoldsKeyBy] using underway
  | cons holding rest inductionHypothesis =>
    rw [List.foldlM_cons, bind_eq_ok] at folded
    obtain ⟨middle, done, folded⟩ := folded
    obtain ⟨isHolding, record, found, includes⟩ := members holding List.mem_cons_self
    have stepped := underway.move registered exclusive begun lists long apart isHolding found
      includes isAll done
    have ended := inductionHypothesis stepped
      (fun later member => members later (List.mem_cons_of_mem _ member)) folded
    have same : (fun role key => (moved role key ∨ (role = holding.role ∧ key = record.key)) ∨
        start.HoldsKeyBy rest role key) =
        fun role key => moved role key ∨ start.HoldsKeyBy (holding :: rest) role key := by
      funext role key
      rw [holdsKeyBy_cons found, or_assoc]
    exact same ▸ ended

end Moved

/-! ### Holdings moved to where they are -/

theorem detach_eq_self {role : String} {number : Nat}
    (lacking : ⟨Text.normalize role, number⟩ ∉ ledger.holdings) :
    ledger.detach role number = ledger := by
  have same : ledger.holdings.erase ⟨Text.normalize role, number⟩ = ledger.holdings := by
    refine OrderedSet.ext_mem fun holding => ?_
    rw [OrderedSet.mem_erase, and_iff_left_of_imp]
    rintro member rfl
    exact lacking member
  unfold detach
  rw [same]

theorem detach_attach {role : String} (normal : Text.normalize role = role) {number : Nat}
    (member : ⟨role, number⟩ ∈ ledger.holdings) :
    (ledger.detach role number).attach role number = ledger := by
  have same : (ledger.holdings.erase ⟨role, number⟩).insert ⟨role, number⟩ = ledger.holdings := by
    refine OrderedSet.ext_mem fun holding => ?_
    rw [OrderedSet.mem_insert, OrderedSet.mem_erase]
    by_cases equal : holding = ⟨role, number⟩
    · simp [equal, member]
    · simp [equal]
  unfold attach detach
  rw [normal, same]

/-- A role that gets back the key of a record that was taken from it holds the record again. -/
theorem Coherent.detach_withHolding (coherent : ledger.Coherent catalogue) {role : String}
    (normal : Text.normalize role = role) {number : Nat} {record : Record}
    (found : ledger.record? number = some record) (member : ⟨role, number⟩ ∈ ledger.holdings)
    (grantor : String) (now : Timestamp) :
    (ledger.detach role number).withHolding role record.key grantor now = ledger := by
  have listed : (ledger.detach role number).findRecord? record.key = some number := by
    show ledger.findRecord? record.key = some number
    cases search : ledger.findRecord? record.key with
    | none => exact absurd rfl (key_ne_of_findRecord? search found)
    | some other =>
      obtain ⟨same, sameFound, equal⟩ := record?_of_findRecord? search
      rw [coherent.apart other number same record sameFound found equal]
  unfold Ledger.withHolding Ledger.ensureRecord
  rw [listed]
  exact detach_attach normal member

theorem Coherent.withoutActions_eq_self (coherent : ledger.Coherent catalogue) {role : String}
    {key : RecordKey} {actions : List Action} (lacking : ∀ action ∈ actions,
      ¬ledger.HoldsKey (Text.normalize role) (key.withAction action.name)) :
    ledger.withoutActions role key actions = ledger := by
  unfold Ledger.withoutActions
  induction actions with
  | nil => rfl
  | cons action rest inductionHypothesis =>
    have others := inductionHypothesis fun later member =>
      lacking later (List.mem_cons_of_mem _ member)
    refine (congrArg (fun current => rest.foldl _ current) ?_).trans others
    dsimp only
    split
    · next number search =>
      obtain ⟨record, found, equal⟩ := record?_of_findRecord? search
      have apart := lacking action List.mem_cons_self
      rw [← equal, coherent.holdsKey_iff_mem found] at apart
      exact detach_eq_self apart
    · rfl

/-- What is taken from a role and then given to it again is held as before: the role had none of the
members of `all` besides `all`, so there is nothing that the grant could replace or save. -/
theorem Coherent.detach_grantKey (coherent : ledger.Coherent catalogue)
    (exclusive : ledger.Exclusive catalogue) {role : String} (normal : Text.normalize role = role)
    {number : Nat} {record : Record} (found : ledger.record? number = some record)
    (lists : catalogue.ListsAll record.key.component) (member : ⟨role, number⟩ ∈ ledger.holdings)
    {grantor : String} {now : Timestamp}
    (done : (ledger.detach role number).grantKey catalogue role record.key grantor now =
      .ok next) : next = ledger := by
  have detached := coherent.detach role found
  have earlier : ∀ key, (ledger.detach role number).HoldsKey role key →
      ledger.HoldsKey role key := fun key holds => ((detached.holdsKey role key).1 holds).1
  have holds : ledger.HoldsKey role record.key := ⟨number, record, member, found, rfl⟩
  obtain ⟨all, isAll, done⟩ := bind_eq_ok.1 done
  obtain ⟨action, resolved, done⟩ := bind_eq_ok.1 done
  have forAll := (coherent.fits number record found).beq_all resolved isAll
  have again := coherent.detach_withHolding normal found member grantor now
  split at done
  · next whole =>
    obtain rfl := pure_eq_ok.1 done
    rw [detached.coherent.withoutActions_eq_self, again]
    rw [normal]
    intro other isMember holdsOther
    refine exclusive role record.key all other isAll isMember ?_ (earlier _ holdsOther)
    rw [← forAll.1 whole, RecordKey.withAction_self]
    exact holds
  · next single =>
    rw [forAll] at single
    split at done
    · next holdsWhole =>
      rw [detached.coherent.holdsKey_eq_true, normal,
        Vocabularies.name_of_all (StoreError.lift_eq_ok.1 isAll)] at holdsWhole
      have settled := ((exclusive.settled coherent role record.key).2 holds).2
      exact absurd ⟨lists, single, earlier _ holdsWhole⟩ settled
    · rw [← pure_eq_ok.1 done, again]

/-- A holding that is moved to where it is stays. -/
theorem Coherent.moveHolding_self (coherent : ledger.Coherent catalogue)
    (exclusive : ledger.Exclusive catalogue) (lists : catalogue.ListsAll target.component)
    (same : (target.steps == replacement) = true)
    (lowered : replacement.map Step.lowered = replacement) {holding : Holding}
    (member : holding ∈ ledger.holdings) {record : Record}
    (found : ledger.record? holding.record = some record)
    (includes : target.Includes catalogue record.key) (low : record.key.Lowered) {all : Action}
    (isAll : catalogue.all target.component = .ok all) {now : Timestamp}
    (done : ledger.moveHolding catalogue target.component all replacement now holding =
      .ok next) : next = ledger ∧ catalogue.Moves replacement record.key record.key := by
  rw [← includes.component] at isAll lists
  unfold Ledger.moveHolding at done
  rw [found] at done
  obtain ⟨steps, decoded, done⟩ := bind_eq_ok.1 done
  obtain ⟨path, encoded, done⟩ := bind_eq_ok.1 done
  obtain ⟨middle, revoked, done⟩ := bind_eq_ok.1 done
  rw [← includes.component] at decoded encoded
  have moves : catalogue.Moves replacement record.key { record.key with path := path } :=
    ⟨steps, path, decoded, encoded, rfl⟩
  have unchanged := moves.eq_self includes (coherent.fits _ record found) low same lowered
  rw [unchanged] at moves done
  refine ⟨?_, moves⟩
  have whole : all.name = Action.allName :=
    Vocabularies.name_of_all (StoreError.lift_eq_ok.1 isAll)
  rw [coherent.revokeRecord_eq found isAll, RecordKey.leftActions_eq_nil (Or.inl whole),
    if_pos (show record.key.Yields all from Or.inl whole)] at revoked
  obtain rfl := Except.ok.inj revoked
  exact coherent.detach_grantKey exclusive (coherent.normalize_of_mem member) found lists member
    done

/-- Holdings that are moved to where they are stay. -/
theorem Coherent.foldlM_moveHolding_self (coherent : ledger.Coherent catalogue)
    (exclusive : ledger.Exclusive catalogue) (lists : catalogue.ListsAll target.component)
    (same : (target.steps == replacement) = true)
    (lowered : replacement.map Step.lowered = replacement) {holdings : List Holding}
    (members : ∀ holding ∈ holdings, holding ∈ ledger.holdings ∧
      ∃ record, ledger.record? holding.record = some record ∧ target.Includes catalogue record.key)
    (low : ∀ role key, ledger.HoldsKey role key → key.Lowered) {all : Action}
    (isAll : catalogue.all target.component = .ok all) {now : Timestamp}
    (folded : holdings.foldlM (fun ledger holding => ledger.moveHolding catalogue target.component
      all replacement now holding) ledger = .ok next) :
    next = ledger ∧ ∀ role key, ledger.HoldsKeyBy holdings role key →
      catalogue.Moves replacement key key := by
  induction holdings with
  | nil =>
    refine ⟨(pure_eq_ok.1 folded).symm, ?_⟩
    rintro role key ⟨_, member, -⟩
    cases member
  | cons holding rest inductionHypothesis =>
    rw [List.foldlM_cons, bind_eq_ok] at folded
    obtain ⟨middle, done, folded⟩ := folded
    obtain ⟨isHolding, record, found, includes⟩ := members holding List.mem_cons_self
    obtain ⟨rfl, moves⟩ := coherent.moveHolding_self exclusive lists same lowered isHolding found
      includes (low _ _ ⟨holding.record, record, isHolding, found, rfl⟩) isAll done
    obtain ⟨unchanged, others⟩ := inductionHypothesis
      (fun later member => members later (List.mem_cons_of_mem _ member)) folded
    refine ⟨unchanged, fun role key holds => ?_⟩
    rcases (holdsKeyBy_cons found).1 holds with ⟨rfl, rfl⟩ | later
    · exact moves
    · exact others role key later

/-! ### All keys moved -/

/-- When all holdings under a path have been moved, the roles hold the images of their keys. -/
theorem Coherent.foldlM_moveHolding_images (coherent : ledger.Coherent catalogue)
    (registered : catalogue.Registered) (exclusive : ledger.Exclusive catalogue)
    (low : ledger.HoldsLowered) (lists : catalogue.ListsAll target.component)
    (long : target.steps.length = replacement.length)
    (lowered : replacement.map Step.lowered = replacement) {holdings : List Holding}
    (included : ledger.includedHoldings catalogue target = .ok holdings) {all : Action}
    (isAll : catalogue.all target.component = .ok all) {now : Timestamp}
    (folded : holdings.foldlM (fun ledger holding => ledger.moveHolding catalogue target.component
      all replacement now holding) ledger = .ok next) :
    (∀ role key, ledger.HoldsKey role key →
      ∃ image, catalogue.Image target replacement key image) ∧
    (∀ role image, next.HoldsKey role image ↔ catalogue.Settled (fun image =>
      ∃ key, ledger.HoldsKey role key ∧ catalogue.Image target replacement key image) image) ∧
    ((target.steps == replacement) = true → next = ledger) := by
  have chosen : ∀ holding, holding ∈ holdings ↔ holding ∈ ledger.holdings ∧
      ∃ record, ledger.record? holding.record = some record ∧
        target.Includes catalogue record.key := by
    simpa only [Target.includes_iff] using mem_includedHoldings included
  have isChosen : ∀ role key, ledger.HoldsKeyBy holdings role key ↔
      ledger.HoldsKey role key ∧ target.Includes catalogue key :=
    holdsKeyBy_iff (fun _ key => target.Includes catalogue key) chosen
  have members := fun holding => (chosen holding).1
  have images : (∀ role key, ledger.HoldsKeyBy holdings role key →
      ∃ image, catalogue.Moves replacement key image) →
      ∀ role key, ledger.HoldsKey role key →
        ∃ image, catalogue.Image target replacement key image := by
    intro arrived role key holds
    by_cases includes : target.Includes catalogue key
    · obtain ⟨image, moves⟩ := arrived role key ((isChosen role key).2 ⟨holds, includes⟩)
      exact ⟨image, Or.inl ⟨includes, moves⟩⟩
    · exact ⟨key, Or.inr ⟨includes, rfl⟩⟩
  cases apart : target.steps == replacement with
  | false =>
    have ended := (Underway.begin coherent exclusive).foldlM registered exclusive coherent lists
      long apart members isAll folded
    simp only [false_or] at ended
    refine ⟨images ended.arrived, fun role image => ?_, fun same => by cases same⟩
    rw [ended.settled]
    exact Catalogue.settled_congr (Catalogue.shifted_iff_image (isChosen role)) image
  | true =>
    obtain ⟨rfl, moves⟩ := coherent.foldlM_moveHolding_self exclusive lists apart lowered members
      low isAll folded
    refine ⟨images fun role key holds => ⟨key, moves role key holds⟩, fun role image => ?_,
      fun _ => rfl⟩
    rw [← exclusive.settled coherent role image]
    refine Catalogue.settled_congr (fun other => ?_) image
    constructor
    · intro holds
      by_cases includes : target.Includes catalogue other
      · exact ⟨other, holds, Or.inl ⟨includes,
          moves role other ((isChosen role other).2 ⟨holds, includes⟩)⟩⟩
      · exact ⟨other, holds, Or.inr ⟨includes, rfl⟩⟩
    · rintro ⟨key, holds, ⟨includes, becomes⟩ | ⟨-, rfl⟩⟩
      · rw [becomes.unique (moves role key ((isChosen role key).2 ⟨holds, includes⟩))]
        exact holds
      · exact holds

/-- After a rename in a component in which `all` lists every other action, the roles hold the
images of their keys, but for those that give way to others. Images differ from their keys in the
path only. When the new path is not the old one nothing is held under the old one, and when it is
the same nothing changes. -/
theorem rename_moves {component service : String} {old new : List Step} {now : Timestamp}
    (registered : catalogue.Registered) (attained : Attained catalogue ledger)
    (lists : catalogue.ListsAll (Text.normalize component))
    (renamed : (ledger.rename catalogue component service old new now).result = .ok next) :
    let target := Target.ofService component service old
    let replacement := new.map Step.lowered
    (∀ role key, ledger.HoldsKey role key →
      ∃ image, catalogue.Image target replacement key image) ∧
    (∀ key image, catalogue.Image target replacement key image →
      image = { key with path := image.path } ∧
        ∀ other, catalogue.Image target replacement key other → other = image) ∧
    (∀ role image, next.HoldsKey role image ↔ catalogue.Settled (fun image =>
      ∃ key, ledger.HoldsKey role key ∧ catalogue.Image target replacement key image) image) ∧
    ((target.steps == replacement) = false →
      ∀ role key, next.HoldsKey role key → ¬target.Includes catalogue key) ∧
    ((target.steps == replacement) = true → next = ledger) := by
  intro target replacement
  have coherent := attained.reachable.coherent registered
  have leaves : (target.steps == replacement) = false →
      ∀ role key, next.HoldsKey role key → ¬target.Includes catalogue key :=
    fun apart role key holds includes => coherent.rename_leaves_none registered apart renamed role
      key holds (Target.includes_iff.2 includes)
  rcases rename_cases ledger catalogue component service old new now with
    ⟨reason, refused⟩ | ⟨all, holdings, long, isAll, included, moves⟩
  · rw [refused] at renamed
    cases renamed
  rw [moves, Edited.result_each] at renamed
  have equal : (Target.ofService component service old).steps.length =
      (new.map Step.lowered).length := by
    rw [Target.ofService, List.length_map, List.length_map, long]
  have listed : catalogue.ListsAll target.component := lists
  have whole : catalogue.all target.component = .ok all := isAll
  obtain ⟨arrived, holds, unchanged⟩ := coherent.foldlM_moveHolding_images registered
    (reachable_exclusive registered attained.reachable) (attained.holdsLowered registered) listed
    equal (Step.map_lowered_map_lowered new) included whole renamed
  exact ⟨arrived, fun key image isImage =>
    ⟨isImage.eq_withPath, fun other again => again.unique isImage⟩, holds, leaves, unchanged⟩

/-- Two shelves become one. Where the clerks might read they may do everything, so the key for
reading gives way. -/
theorem rename_moves_archive :
    ∃ ledger next : Ledger, Attained Catalogue.archive ledger ∧
      (ledger.records.entries.map fun entry => (entry.1, entry.2.key.action)) =
        [(1, "all"), (2, "read")] ∧
      ledger.holdings.elements = [⟨"clerks", 1⟩, ⟨"clerks", 2⟩] ∧
      (ledger.rename Catalogue.archive " Archive" "lending" [⟨"shelf", "B"⟩] [⟨"shelf", "a"⟩]
        default).result = .ok next ∧
      next.holdings.elements = [⟨"clerks", 1⟩] ∧
      ∀ role image, next.HoldsKey role image ↔
        Catalogue.archive.Settled (fun image => ∃ key, ledger.HoldsKey role key ∧
          Catalogue.archive.Image (Target.ofService " Archive" "lending" [⟨"shelf", "B"⟩])
            [⟨"shelf", "a"⟩] key image) image := by
  let everything : Privilege := { libraryPrivilege "all" with component := "archive" }
  let reading : Privilege := { libraryReading [⟨"shelf", "b"⟩] with component := "archive" }
  let naming : Operation := .createRole "Clerks" default
  let named := naming.apply Catalogue.archive empty
  let giving : Operation := .grant "Clerks" everything "olga" default
  let given := giving.apply Catalogue.archive named.ledger
  let adding : Operation := .grant "Clerks" reading "olga" default
  let added := adding.apply Catalogue.archive given.ledger
  let moved := added.ledger.rename Catalogue.archive " Archive" "lending" [⟨"shelf", "B"⟩]
    [⟨"shelf", "a"⟩] default
  have attained : Attained Catalogue.archive added.ledger :=
    .apply (.apply (.apply .empty naming trivial) giving
      ⟨everything.toDraft, by decide +kernel⟩) adding ⟨reading.toDraft, by decide +kernel⟩
  have normal : Text.normalize " Archive" = "archive" := by decide +kernel
  have outcome : (added.ledger.records.entries.map fun entry => (entry.1, entry.2.key.action)) =
      [(1, "all"), (2, "read")] ∧
      added.ledger.holdings.elements = [⟨"clerks", 1⟩, ⟨"clerks", 2⟩] ∧
      moved.ledger.holdings.elements = [⟨"clerks", 1⟩] ∧ moved.failure.isNone = true := by
    decide +kernel
  obtain ⟨actions, before, after, ended⟩ := outcome
  have done := Edited.result_of_isNone ended
  obtain ⟨-, -, holds, -, -⟩ := rename_moves Catalogue.registered_archive attained
    (normal ▸ Catalogue.listsAll_archive) done
  exact ⟨added.ledger, moved.ledger, attained, actions, before, done, after, holds⟩

/-- In a component in which `all` leaves out an action, the keys for both stay side by side through
a rename in another component. -/
theorem rename_keeps_unlisted :
    ¬∀ (catalogue : Catalogue) (ledger next : Ledger) (component service : String)
      (old new : List Step) (now : Timestamp), catalogue.Registered →
      Attained catalogue ledger → catalogue.ListsAll (Text.normalize component) →
      (ledger.rename catalogue component service old new now).result = .ok next →
      ∀ role image, next.HoldsKey role image ↔
        (∃ key, ledger.HoldsKey role key ∧ catalogue.Image
          (Target.ofService component service old) (new.map Step.lowered) key image) ∧
        ¬(image.action ≠ Action.allName ∧ ∃ key, ledger.HoldsKey role key ∧ catalogue.Image
          (Target.ofService component service old) (new.map Step.lowered) key
          (image.withAction Action.allName)) := by
  intro claimed
  let naming : Operation := .createRole "Clerks" default
  let named := naming.apply Catalogue.archive empty
  let mending : Operation := .grant "Clerks" (libraryPrivilege "mend") "olga" default
  let mended := mending.apply Catalogue.archive named.ledger
  let giving : Operation := .grant "Clerks" (libraryPrivilege "all") "olga" default
  let given := giving.apply Catalogue.archive mended.ledger
  let moved := given.ledger.rename Catalogue.archive "archive" "lending" [⟨"shelf", "b"⟩]
    [⟨"shelf", "a"⟩] default
  have attained : Attained Catalogue.archive given.ledger :=
    .apply (.apply (.apply .empty naming trivial) mending
      ⟨(libraryPrivilege "mend").toDraft, by decide +kernel⟩) giving
      ⟨(libraryPrivilege "all").toDraft, by decide +kernel⟩
  have lists : Catalogue.archive.ListsAll (Text.normalize "archive") := by
    rw [show Text.normalize "archive" = "archive" by decide +kernel]
    exact Catalogue.listsAll_archive
  let key : RecordKey :=
    ⟨"library", "lending", "mend", "*", some true, ⟨1, Slots.ofNames ["a"] (by decide)⟩⟩
  let forMending : Record := ⟨key, "olga", default⟩
  let forAll : Record := ⟨key.withAction Action.allName, "olga", default⟩
  have outcome : moved.failure.isNone = true ∧
      moved.ledger.holdings.contains ⟨"clerks", 1⟩ = true ∧
      moved.ledger.record? 1 = some forMending ∧
      given.ledger.holdings.contains ⟨"clerks", 2⟩ = true ∧
      given.ledger.record? 2 = some forAll := by
    decide +kernel
  obtain ⟨ended, after, mendingKept, before, allKept⟩ := outcome
  have holds : moved.ledger.HoldsKey "clerks" key :=
    ⟨1, forMending, OrderedSet.contains_iff.1 after, mendingKept, rfl⟩
  have whole : given.ledger.HoldsKey "clerks" (key.withAction Action.allName) :=
    ⟨2, forAll, OrderedSet.contains_iff.1 before, allKept, rfl⟩
  obtain ⟨-, kept⟩ := (claimed Catalogue.archive given.ledger moved.ledger "archive" "lending"
    [⟨"shelf", "b"⟩] [⟨"shelf", "a"⟩] default Catalogue.registered_archive attained lists
    (Edited.result_of_isNone ended) "clerks" key).1 holds
  refine kept ⟨by decide, key.withAction Action.allName, whole, Or.inr ⟨fun includes => ?_, rfl⟩⟩
  exact absurd includes.component (by decide +kernel)

end Ledger

end Entitlement
