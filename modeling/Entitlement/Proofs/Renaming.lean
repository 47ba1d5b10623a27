/-
This file says what a rename does. It takes the holdings under the old path one by one, and for each
of them the role loses its record and is granted the same key at the new path. The new path does not
lie under the old one unless the two are equal, so what is still held under the old path is always
among the holdings that are still to be moved, and in the end there are none.
-/

import Entitlement.Proofs.Covering
import Entitlement.Proofs.Edits

namespace Entitlement

/-! ### Paths that begin with another -/

theorem Step.Respelled.beq_eq {step other : Step} (same : step.Respelled other) (first : Step) :
    (first == other) = (first == step) := by
  rw [Bool.eq_iff_iff, Step.beq_iff, Step.beq_iff, same.1]
  refine and_congr_left fun _ => ?_
  rw [Text.sameAsciiCase_iff, Text.sameAsciiCase_iff, Text.sameAsciiCase_iff.1 same.2]

theorem SamePath.isPrefixOf_eq {steps others : List Step} (same : SamePath steps others)
    (start : List Step) : start.isPrefixOf others = start.isPrefixOf steps := by
  induction same generalizing start with
  | nil => rfl
  | cons first _ inductionHypothesis =>
    cases start with
    | nil => rfl
    | cons step rest =>
      rw [List.isPrefixOf, List.isPrefixOf, first.beq_eq, inductionHypothesis]

/-- Of a path that begins with steps of the same number, only these matter. -/
theorem isPrefixOf_append {start steps : List Step} (long : start.length = steps.length)
    (rest : List Step) : start.isPrefixOf (steps ++ rest) = (start == steps) := by
  induction start generalizing steps with
  | nil =>
    obtain rfl := List.length_eq_zero_iff.1 long.symm
    cases rest <;> rfl
  | cons step others inductionHypothesis =>
    cases steps with
    | nil => cases long
    | cons first further =>
      rw [List.cons_append, List.isPrefixOf, List.cons_beq_cons,
        inductionHypothesis (Nat.succ.inj long)]

theorem length_le_of_isPrefixOf {start steps : List Step}
    (begins : start.isPrefixOf steps = true) : start.length ≤ steps.length := by
  induction start generalizing steps with
  | nil => exact Nat.zero_le _
  | cons step others inductionHypothesis =>
    cases steps with
    | nil => cases begins
    | cons first further =>
      rw [List.isPrefixOf, Bool.and_eq_true] at begins
      exact Nat.succ_le_succ (inductionHypothesis begins.2)

/-- A path under the old steps whose steps are replaced does not lie under the old ones any more,
unless they are the same. -/
theorem isPrefixOf_replaceSteps {old new steps : List Step} (long : old.length = new.length)
    (begins : old.isPrefixOf steps = true) :
    old.isPrefixOf (Ledger.replaceSteps new steps) = (old == new) := by
  have short : new.length ≤ steps.length := long ▸ length_le_of_isPrefixOf begins
  rw [Ledger.replaceSteps, List.take_of_length_le short, isPrefixOf_append long]

/-! ### Keys at new paths -/

namespace Catalogue

/-- Whether a key is another one with the leading steps of its path replaced. -/
def Moves (catalogue : Catalogue) (replacement : List Step) (key moved : RecordKey) : Prop :=
  ∃ steps path, catalogue.decode key.component key.path = .ok steps ∧
    catalogue.encode key.component (Ledger.replaceSteps replacement steps) = .ok path ∧
    moved = { key with path := path }

theorem includes_eq_ok_true {catalogue : Catalogue} {target : Target} {key : RecordKey} :
    target.includes catalogue key = .ok true ↔ target.agrees key = true ∧
      ∃ steps, catalogue.decode key.component key.path = .ok steps ∧
        target.steps.isPrefixOf steps = true := by
  unfold Target.includes
  split
  · next agrees => simp [map_eq_ok, agrees]
  · next differs => simp [differs]

/-- A key that is moved from under a path is not under it any more. -/
theorem Moves.not_includes {catalogue : Catalogue} {target : Target} {replacement : List Step}
    {key moved : RecordKey} (moves : catalogue.Moves replacement key moved)
    (long : target.steps.length = replacement.length)
    (apart : (target.steps == replacement) = false)
    (includes : target.includes catalogue key = .ok true) :
    target.includes catalogue moved ≠ .ok true := by
  obtain ⟨steps, path, decoded, encoded, rfl⟩ := moves
  obtain ⟨-, same, sameDecoded, begins⟩ := includes_eq_ok_true.1 includes
  obtain rfl : steps = same := Except.ok.inj (decoded.symm.trans sameDecoded)
  intro included
  obtain ⟨-, further, furtherDecoded, still⟩ := includes_eq_ok_true.1 included
  obtain ⟨found, foundDecoded, respelled, -⟩ := decode_of_encode encoded
  obtain rfl : found = further := Except.ok.inj (foundDecoded.symm.trans furtherDecoded)
  rw [respelled.isPrefixOf_eq, isPrefixOf_replaceSteps long begins, apart] at still
  cases still

end Catalogue

namespace Ledger

variable {catalogue : Catalogue} {start ledger next : Ledger}

/-! ### One holding moved -/

/-- When a holding is moved, the role loses its record and is granted the key at its new path. -/
theorem Coherent.moveHolding_granted (coherent : ledger.Coherent catalogue)
    (registered : catalogue.Registered) {component : String} {all : Action}
    {replacement : List Step} {now : Timestamp} {holding : Holding} {record : Record}
    (known : ledger.hasRole holding.role = true)
    (found : ledger.record? holding.record = some record)
    (placed : record.key.component = component) (isAll : catalogue.all component = .ok all)
    (done : ledger.moveHolding catalogue component all replacement now holding = .ok next) :
    ∃ moved middle, catalogue.Moves replacement record.key moved ∧
      ledger.Becomes catalogue middle (fun role key => ledger.HoldsKey role key ∧
        ¬(role = Text.normalize holding.role ∧ key = record.key)) ∧
      Granted catalogue middle (Text.normalize holding.role) moved all next := by
  subst placed
  unfold Ledger.moveHolding at done
  rw [found] at done
  obtain ⟨steps, decoded, done⟩ := bind_eq_ok.1 done
  obtain ⟨path, encoded, done⟩ := bind_eq_ok.1 done
  obtain ⟨middle, revoked, done⟩ := bind_eq_ok.1 done
  obtain ⟨taken, takenOk, becomes⟩ :=
    coherent.revokeRecord_becomes registered known found isAll all record.grantor now
  obtain rfl : taken = middle := Except.ok.inj (takenOk.symm.trans revoked)
  have fits : catalogue.Fits { record.key with path := path } :=
    (coherent.fits _ record found).moved encoded
  obtain ⟨whole, isWhole, granted⟩ :=
    becomes.coherent.granted ((becomes.grows.hasRole _).trans known) fits done
  obtain rfl : whole = all := Except.ok.inj (isWhole.symm.trans isAll)
  have allNamed : whole.name = Action.allName :=
    Vocabularies.name_of_all (StoreError.lift_eq_ok.1 isAll)
  refine ⟨_, taken, ⟨steps, path, decoded, encoded, rfl⟩, becomes.congr fun role key => ?_, granted⟩
  rw [RecordKey.leftActions_eq_nil (Or.inl allNamed)]
  simp [RecordKey.Yields, allNamed]

/-- When a holding is moved, roles hold what they held before without the key that is moved, and
this key at its new path. -/
theorem Coherent.moveHolding_eq_ok (coherent : ledger.Coherent catalogue)
    (registered : catalogue.Registered) {component : String} {all : Action}
    {replacement : List Step} {now : Timestamp} {holding : Holding} {record : Record}
    (known : ledger.hasRole holding.role = true)
    (found : ledger.record? holding.record = some record)
    (placed : record.key.component = component) (isAll : catalogue.all component = .ok all)
    (done : ledger.moveHolding catalogue component all replacement now holding = .ok next) :
    next.Coherent catalogue ∧ ledger.Grows next ∧ ∀ role key, next.HoldsKey role key →
      (ledger.HoldsKey role key ∧ ¬(role = Text.normalize holding.role ∧ key = record.key)) ∨
        (role = Text.normalize holding.role ∧ catalogue.Moves replacement record.key key) := by
  obtain ⟨moved, middle, moves, becomes, granted⟩ :=
    coherent.moveHolding_granted registered known found placed isAll done
  obtain ⟨coherentNext, grows⟩ := granted.coherent_grows becomes.coherent
  refine ⟨coherentNext, becomes.grows.trans grows, fun role key holds => ?_⟩
  rcases granted.holds_or_eq holds with earlier | ⟨rfl, rfl⟩
  · exact Or.inl ((becomes.holdsKey role key).1 earlier)
  · exact Or.inr ⟨rfl, moves⟩

/-! ### All holdings moved -/

/-- A rename either is refused before it changes anything or moves the holdings under the old path
one by one. -/
theorem rename_cases (ledger : Ledger) (catalogue : Catalogue) (component service : String)
    (old new : List Step) (now : Timestamp) :
    (∃ reason, ledger.rename catalogue component service old new now = ⟨ledger, some reason⟩) ∨
      ∃ all holdings, old.length = new.length ∧
        catalogue.all (Text.normalize component) = .ok all ∧
        ledger.includedHoldings catalogue (Target.ofService component service old) =
          .ok holdings ∧
        ledger.rename catalogue component service old new now =
          Edited.each (fun ledger holding => ledger.moveHolding catalogue
            (Text.normalize component) all (new.map Step.lowered) now holding) ledger holdings := by
  unfold Ledger.rename
  dsimp only
  split
  · next reason _ => exact Or.inl ⟨reason, rfl⟩
  · next all holdings plan =>
    split at plan
    · cases plan
    next long =>
    obtain ⟨_, -, plan⟩ := bind_eq_ok.1 plan
    obtain ⟨_, -, plan⟩ := bind_eq_ok.1 plan
    obtain ⟨whole, isAll, plan⟩ := bind_eq_ok.1 plan
    obtain ⟨found, included, plan⟩ := bind_eq_ok.1 plan
    obtain ⟨rfl, rfl⟩ := Prod.mk.inj (pure_eq_ok.1 plan)
    exact Or.inr ⟨whole, found, Decidable.not_not.1 long, isAll, included, rfl⟩

/-- What moving one of the holdings does in a ledger that has grown out of the one in which they
were chosen. -/
theorem Coherent.move_chosen (coherent : ledger.Coherent catalogue)
    (registered : catalogue.Registered) (begun : start.Coherent catalogue)
    (grown : start.Grows ledger) {target : Target} {holdings : List Holding}
    (included : start.includedHoldings catalogue target = .ok holdings) {holding : Holding}
    (member : holding ∈ holdings) {all : Action} (isAll : catalogue.all target.component = .ok all)
    {replacement : List Step} {now : Timestamp}
    (done : ledger.moveHolding catalogue target.component all replacement now holding =
      .ok next) :
    next.Coherent catalogue ∧ start.Grows next ∧ ∃ record,
      start.record? holding.record = some record ∧ start.HoldsKey holding.role record.key ∧
      target.includes catalogue record.key = .ok true ∧
      ∀ role key, next.HoldsKey role key →
        (ledger.HoldsKey role key ∧ ¬(role = holding.role ∧ key = record.key)) ∨
          (role = holding.role ∧ catalogue.Moves replacement record.key key) := by
  obtain ⟨isHolding, record, found, includes⟩ := (mem_includedHoldings included holding).1 member
  have known := (grown.hasRole holding.role).trans (begun.hasRole_of_mem isHolding)
  obtain ⟨coherentNext, grows, holds⟩ := coherent.moveHolding_eq_ok registered known
    (grown.record _ record found) (component_of_includes includes) isAll done
  rw [begun.normalize_of_mem isHolding] at holds
  exact ⟨coherentNext, grown.trans grows, record, found,
    ⟨holding.record, record, isHolding, found, rfl⟩, includes, holds⟩

/-- When all holdings under a path have been moved from there, no key under it is held. -/
theorem Coherent.foldlM_moveHolding (registered : catalogue.Registered)
    (begun : start.Coherent catalogue) {target : Target} {chosen : List Holding}
    (included : start.includedHoldings catalogue target = .ok chosen) {all : Action}
    (isAll : catalogue.all target.component = .ok all) {replacement : List Step}
    (long : target.steps.length = replacement.length)
    (apart : (target.steps == replacement) = false) {now : Timestamp} {holdings : List Holding}
    (members : ∀ holding ∈ holdings, holding ∈ chosen) (coherent : ledger.Coherent catalogue)
    (grown : start.Grows ledger)
    (left : ∀ role key, ledger.HoldsKey role key → target.includes catalogue key = .ok true →
      start.HoldsKeyBy holdings role key)
    (folded : holdings.foldlM (fun ledger holding => ledger.moveHolding catalogue target.component
      all replacement now holding) ledger = .ok next) :
    ∀ role key, next.HoldsKey role key → target.includes catalogue key ≠ .ok true := by
  induction holdings generalizing ledger with
  | nil =>
    obtain rfl := pure_eq_ok.1 folded
    intro role key holds includes
    obtain ⟨holding, member, -⟩ := left role key holds includes
    cases member
  | cons holding rest inductionHypothesis =>
    rw [List.foldlM_cons, bind_eq_ok] at folded
    obtain ⟨middle, moved, folded⟩ := folded
    obtain ⟨sound, grows, record, found, -, includes, holds⟩ := coherent.move_chosen registered
      begun grown included (members holding List.mem_cons_self) isAll moved
    refine inductionHypothesis (fun later member => members later (List.mem_cons_of_mem _ member))
      sound grows ?_ folded
    intro role key isHeld inside
    rcases holds role key isHeld with ⟨earlier, others⟩ | ⟨-, moves⟩
    · obtain ⟨by_, member, rfl, same, sameFound, rfl⟩ := left role key earlier inside
      rcases List.mem_cons.1 member with rfl | later
      · obtain rfl : record = same := Option.some.inj (found.symm.trans sameFound)
        exact absurd ⟨rfl, rfl⟩ others
      · exact ⟨by_, later, rfl, same, sameFound, rfl⟩
    · exact absurd inside (moves.not_includes long apart includes)

/-- After a rename that was not refused, nobody holds anything under the old path. -/
theorem Coherent.rename_leaves_none (coherent : ledger.Coherent catalogue)
    (registered : catalogue.Registered) {component service : String} {old new : List Step}
    {now : Timestamp} (apart : (old.map Step.lowered == new.map Step.lowered) = false)
    (renamed : (ledger.rename catalogue component service old new now).result = .ok next) :
    ∀ role key, next.HoldsKey role key →
      (Target.ofService component service old).includes catalogue key ≠ .ok true := by
  rcases rename_cases ledger catalogue component service old new now with
    ⟨reason, refused⟩ | ⟨all, holdings, long, isAll, included, moves⟩
  · rw [refused] at renamed
    cases renamed
  rw [moves, Edited.result_each] at renamed
  have equal : (Target.ofService component service old).steps.length =
      (new.map Step.lowered).length := by
    rw [Target.ofService, List.length_map, List.length_map, long]
  refine Coherent.foldlM_moveHolding registered coherent included isAll equal apart
    (fun _ member => member) coherent (.refl ledger) ?_ renamed
  intro role key holds includes
  exact (holdsKeyBy_iff (fun _ key => (Target.ofService component service old).includes catalogue
    key = .ok true) (mem_includedHoldings included) role key).2 ⟨holds, includes⟩

end Ledger

end Entitlement
