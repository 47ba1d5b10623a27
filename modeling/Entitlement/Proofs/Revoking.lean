/-
This file says what a role keeps when an action is taken from some of its keys, and proves that a
privilege is dropped by revoking it from every role.

Both edits walk through holdings that they have chosen before they change anything. A drop goes
through those of all roles in one pass, and the keys that one role gets in the place of `all` may be
records that others hold. No harm comes of it, because a key that was given out for an action that
was taken does not yield to that action again: it makes no difference in which order and in how many
portions the action is taken (`Catalogue.retained_retained`).
-/

import Entitlement.Proofs.Reachable

namespace Entitlement

/-! ### What is left of keys -/

namespace Catalogue

/-- Whether a role that loses an action gets the key in the place of the one it held. -/
def Replaces (catalogue : Catalogue) (action : Action) (held key : RecordKey) : Prop :=
  ∃ all, catalogue.all held.component = .ok all ∧
    ∃ left ∈ held.leftActions all action, key = held.withAction left.name

/-- A key that was given out for an action that was taken does not yield to that action. -/
theorem Replaces.not_yields {catalogue : Catalogue} (registered : catalogue.Registered)
    {action : Action} {held key : RecordKey} (replaces : catalogue.Replaces action held key) :
    ¬key.Yields action := by
  obtain ⟨all, isAll, left, isLeft, rfl⟩ := replaces
  obtain ⟨-, notWhole, isMember, apart⟩ := RecordKey.mem_leftActions.1 isLeft
  have single := (registered.resolve_member (StoreError.lift_eq_ok.1 isAll) isMember).2
  rintro (whole | whole | same)
  · exact notWhole whole
  · exact single whole
  · exact apart same

/-- What roles hold when the action is taken from the chosen ones of the keys that they held. -/
def Retained (catalogue : Catalogue) (action : Action) (held chosen : String → RecordKey → Prop)
    (role : String) (key : RecordKey) : Prop :=
  (held role key ∧ ¬(chosen role key ∧ key.Yields action)) ∨
    ∃ whole, chosen role whole ∧ catalogue.Replaces action whole key

theorem retained_congr {catalogue : Catalogue} {action : Action}
    {held others chosen same : String → RecordKey → Prop} {role : String}
    (equalHeld : ∀ key, held role key ↔ others role key)
    (equalChosen : ∀ key, chosen role key ↔ same role key) (key : RecordKey) :
    catalogue.Retained action held chosen role key ↔
      catalogue.Retained action others same role key := by
  unfold Retained
  simp only [equalHeld, equalChosen]

/-- To take the action from some keys and then from others is to take it from all of them. -/
theorem retained_retained {catalogue : Catalogue} (registered : catalogue.Registered)
    {action : Action} {held first second : String → RecordKey → Prop} (role : String)
    (key : RecordKey) :
    catalogue.Retained action (catalogue.Retained action held first) second role key ↔
      catalogue.Retained action held (fun role key => first role key ∨ second role key)
        role key := by
  constructor
  · rintro (⟨⟨isHeld, kept⟩ | ⟨whole, chosen, replaces⟩, keptAgain⟩ | ⟨whole, chosen, replaces⟩)
    · refine Or.inl ⟨isHeld, ?_⟩
      rintro ⟨early | late, yields⟩
      · exact kept ⟨early, yields⟩
      · exact keptAgain ⟨late, yields⟩
    · exact Or.inr ⟨whole, Or.inl chosen, replaces⟩
    · exact Or.inr ⟨whole, Or.inr chosen, replaces⟩
  · rintro (⟨isHeld, kept⟩ | ⟨whole, early | late, replaces⟩)
    · exact Or.inl ⟨Or.inl ⟨isHeld, fun both => kept ⟨Or.inl both.1, both.2⟩⟩,
        fun both => kept ⟨Or.inr both.1, both.2⟩⟩
    · exact Or.inl ⟨Or.inr ⟨whole, early, replaces⟩,
        fun both => replaces.not_yields registered both.2⟩
    · exact Or.inr ⟨whole, late, replaces⟩

end Catalogue

namespace Ledger

variable {catalogue : Catalogue} {start ledger : Ledger}

/-! ### An action taken from holdings -/

/-- What taking an action from one holding leaves to the roles. -/
theorem Coherent.revokeRecord_retained (coherent : ledger.Coherent catalogue)
    (registered : catalogue.Registered) (begun : start.Coherent catalogue)
    (grown : start.Grows ledger) {holding : Holding} (member : holding ∈ start.holdings)
    (action : Action) (grantor : String) (now : Timestamp) :
    ∃ next,
      ledger.revokeRecord catalogue holding.role action holding.record grantor now = .ok next ∧
      ledger.Becomes catalogue next
        (catalogue.Retained action ledger.HoldsKey (start.HoldsKeyBy [holding])) := by
  obtain ⟨-, record, found⟩ := begun.holding holding member
  obtain ⟨all, isAll⟩ := (begun.fits _ record found).all
  have known : ledger.hasRole holding.role = true :=
    (grown.hasRole _).trans (begun.hasRole_of_mem member)
  obtain ⟨next, revoked, becomes⟩ := coherent.revokeRecord_becomes registered known
    (grown.record _ record found) isAll action grantor now
  refine ⟨next, revoked, becomes.congr fun other key => ?_⟩
  rw [begun.normalize_of_mem member]
  have single : ∀ key, start.HoldsKeyBy [holding] other key ↔
      other = holding.role ∧ key = record.key := by
    intro key
    rw [holdsKeyBy_cons found]
    simp [HoldsKeyBy]
  have replaced : (∃ left ∈ record.key.leftActions all action,
      key = record.key.withAction left.name) ↔ catalogue.Replaces action record.key key := by
    unfold Catalogue.Replaces
    simp [isAll]
  have yields : (key = record.key ∧ record.key.Yields action) ↔
      key = record.key ∧ key.Yields action := by
    refine and_congr_right ?_
    rintro rfl
    exact Iff.rfl
  unfold Catalogue.Retained
  simp only [single, replaced, yields, and_assoc, exists_and_left, exists_eq_left]

/-- What taking an action from several holdings, which were chosen in an earlier ledger, leaves to
the roles. -/
theorem Coherent.foldlM_revokeRecord (coherent : ledger.Coherent catalogue)
    (registered : catalogue.Registered) (begun : start.Coherent catalogue)
    (grown : start.Grows ledger) {holdings : List Holding}
    (members : ∀ holding ∈ holdings, holding ∈ start.holdings) (action : Action)
    (grantor : String) (now : Timestamp) :
    ∃ next, holdings.foldlM (fun ledger holding =>
        ledger.revokeRecord catalogue holding.role action holding.record grantor now) ledger =
          .ok next ∧
      ledger.Becomes catalogue next
        (catalogue.Retained action ledger.HoldsKey (start.HoldsKeyBy holdings)) := by
  induction holdings generalizing ledger with
  | nil =>
    refine ⟨ledger, rfl, (Becomes.refl coherent).congr fun role key => ?_⟩
    unfold Catalogue.Retained HoldsKeyBy
    simp
  | cons holding rest inductionHypothesis =>
    obtain ⟨middle, revoked, first⟩ := coherent.revokeRecord_retained registered begun grown
      (members holding List.mem_cons_self) action grantor now
    obtain ⟨next, folded, others⟩ := inductionHypothesis first.coherent (grown.trans first.grows)
      fun later member => members later (List.mem_cons_of_mem _ member)
    refine ⟨next, ?_, (first.trans others).congr fun role key => ?_⟩
    · rw [List.foldlM_cons, revoked]
      exact folded
    · rw [Catalogue.retained_congr (first.holdsKey role) (fun _ => Iff.rfl),
        Catalogue.retained_retained registered]
      refine Catalogue.retained_congr (fun _ => Iff.rfl) (fun whole => ?_) key
      unfold HoldsKeyBy
      simp only [List.exists_mem_cons_iff, List.not_mem_nil, false_and, exists_false, or_false]

/-! ### The two edits -/

/-- The holdings of one role among the records that a target includes. -/
theorem mem_included_of_role {target : Target} {name : String} {entries : List (Nat × Record)}
    (included : ledger.included catalogue target (some (OrderedSet.ofList [name])) = .ok entries)
    (holding : Holding) :
    holding ∈ entries.map (fun entry => Holding.mk name entry.1) ↔ holding ∈ ledger.holdings ∧
      ∃ record, ledger.record? holding.record = some record ∧ holding.role = name ∧
        target.includes catalogue record.key = .ok true := by
  rw [List.mem_map]
  constructor
  · rintro ⟨entry, member, rfl⟩
    obtain ⟨candidate, includes⟩ := (mem_filterM_eq_ok included entry).1 member
    obtain ⟨found, role, isRole, isHolding⟩ := mem_candidates.1 candidate
    obtain rfl := List.mem_singleton.1 (OrderedSet.mem_ofList.1 isRole)
    exact ⟨isHolding, entry.2, found, rfl, includes⟩
  · rintro ⟨isHolding, record, found, rfl, includes⟩
    refine ⟨(holding.record, record), (mem_filterM_eq_ok included _).2 ⟨?_, includes⟩, rfl⟩
    refine mem_candidates.2 ⟨found, holding.role, ?_, isHolding⟩
    exact OrderedSet.mem_ofList.2 List.mem_cons_self

/-- A revocation whose role exists and whose privilege can be stored goes through the records of the
role that the privilege includes. -/
theorem revoke_eq_each (registered : catalogue.Registered) {role : String}
    (known : ledger.hasRole role = true) {privilege : Privilege} {action : Action}
    {path : StoredPath}
    (resolved : catalogue.resolve privilege.component privilege.action = .ok action)
    (encoded : catalogue.encode privilege.component privilege.steps = .ok path)
    {entries : List (Nat × Record)}
    (included : ledger.included catalogue (Target.ofPrivilege privilege)
      (some (OrderedSet.ofList [Text.normalize role])) = .ok entries)
    (grantor : String) (now : Timestamp) :
    ledger.revoke catalogue role privilege grantor now =
      Edited.each (fun ledger number =>
        ledger.revokeRecord catalogue (Text.normalize role) action number grantor now) ledger
        (entries.map Prod.fst) := by
  have keyed : catalogue.toKey privilege = .ok _ :=
    Catalogue.toKey_eq_ok.2 ⟨action, path, resolved, encoded, rfl⟩
  have named : catalogue.resolve privilege.component action.name = .ok action :=
    StoreError.lift_eq_ok.2 (registered.resolve_name (StoreError.lift_eq_ok.1 resolved))
  unfold Ledger.revoke
  rw [requireRole_eq_ok.2 ⟨known, rfl⟩, keyed]
  dsimp only [bind, Except.bind]
  rw [named, included]
  rfl

/-- A revocation whose role exists and whose privilege can be stored comes to its end. It takes the
action from those keys of the role that the privilege includes. -/
theorem Coherent.revoke_becomes (coherent : ledger.Coherent catalogue)
    (registered : catalogue.Registered) {role : String} (known : ledger.hasRole role = true)
    {privilege : Privilege} {action : Action} {path : StoredPath}
    (resolved : catalogue.resolve privilege.component privilege.action = .ok action)
    (encoded : catalogue.encode privilege.component privilege.steps = .ok path)
    (grantor : String) (now : Timestamp) :
    ∃ next, ledger.revoke catalogue role privilege grantor now = ⟨next, none⟩ ∧
      ledger.Becomes catalogue next (catalogue.Retained action ledger.HoldsKey fun other key =>
        ledger.HoldsKey other key ∧ other = Text.normalize role ∧
          (Target.ofPrivilege privilege).includes catalogue key = .ok true) := by
  obtain ⟨entries, included⟩ := coherent.exists_included (Target.ofPrivilege privilege)
    (some (OrderedSet.ofList [Text.normalize role]))
  have chosen := mem_included_of_role included
  obtain ⟨next, folded, becomes⟩ := coherent.foldlM_revokeRecord registered coherent (.refl ledger)
    (fun holding member => ((chosen holding).1 member).1) action grantor now
  refine ⟨next, ?_, becomes.congr fun other key => Catalogue.retained_congr (fun _ => Iff.rfl)
    (holdsKeyBy_iff (fun other key => other = Text.normalize role ∧
      (Target.ofPrivilege privilege).includes catalogue key = .ok true) chosen other) key⟩
  rw [revoke_eq_each registered known resolved encoded included]
  refine Edited.each_of_foldlM ?_
  rw [← folded, List.foldlM_map, List.foldlM_map]

/-- A revocation that does not come so far is refused before it changes anything. -/
theorem revoke_refused (ledger : Ledger) (catalogue : Catalogue) (role : String)
    (privilege : Privilege) (grantor : String) (now : Timestamp) :
    (∃ reason, ledger.revoke catalogue role privilege grantor now = ⟨ledger, some reason⟩) ∨
      (ledger.hasRole role = true ∧
        ∃ action path, catalogue.resolve privilege.component privilege.action = .ok action ∧
          catalogue.encode privilege.component privilege.steps = .ok path) := by
  unfold Ledger.revoke
  dsimp only
  split
  · next reason _ => exact Or.inl ⟨reason, rfl⟩
  · next plan =>
    obtain ⟨name, required, plan⟩ := bind_eq_ok.1 plan
    obtain ⟨key, keyed, -⟩ := bind_eq_ok.1 plan
    obtain ⟨action, path, resolved, encoded, -⟩ := Catalogue.toKey_eq_ok.1 keyed
    exact Or.inr ⟨(requireRole_eq_ok.1 required).1, action, path, resolved, encoded⟩

/-- A drop of a known action whose path can be stored goes through all holdings of records that the
privilege includes. -/
theorem drop_eq_each {privilege : Privilege} {action : Action} {path : StoredPath}
    (resolved : catalogue.resolve privilege.component (droppedAction privilege) = .ok action)
    (encoded : catalogue.encode privilege.component privilege.steps = .ok path)
    {holdings : List Holding}
    (included : ledger.includedHoldings catalogue (Target.ofPrivilege privilege) = .ok holdings)
    (requestor : String) (now : Timestamp) :
    ledger.drop catalogue privilege requestor now =
      Edited.each (fun ledger holding =>
        ledger.revokeRecord catalogue holding.role action holding.record requestor now) ledger
        holdings := by
  unfold Ledger.drop
  dsimp only [bind, Except.bind]
  rw [resolved, encoded, included]
  rfl

end Ledger

end Entitlement
