/-
This file says when an edit of privileges is refused, and that a refused edit has changed nothing.
The reasons are looked at in a fixed order, first the role, then the component and its action, and
then the path, and all of them before anything is changed. The steps of an edit resolve and decode
again for each record that they come to. They do not fail, because every key that is stored in a
reachable ledger can be read back, and so can every key that an earlier step has added.
-/

import Entitlement.Proofs.Revoking
import Entitlement.Proofs.Permissions
import Entitlement.Proofs.Storing

namespace Entitlement

/-! ### Reasons for a refusal -/

namespace Catalogue

/-- Whether the vocabulary of the component has the action. -/
def Knows (catalogue : Catalogue) (component action : String) : Prop :=
  ∃ vocabulary known,
    catalogue.vocabularies.byComponent.get? (Text.normalize component) = some vocabulary ∧
      vocabulary.actions.get? (Text.normalize action) = some known

/-- Why an edit for an action at a path is refused, or that it is not. Each reason is given only if
those before it do not hold. -/
inductive Judged (catalogue : Catalogue) (component action : String) (steps : List Step) :
    Option StoreError → Prop where
  | unknownComponent
      (missing : catalogue.vocabularies.byComponent.get? (Text.normalize component) = none) :
      Judged catalogue component action steps
        (some (.invalidInput (ModelError.unknownComponent component).message))
  | unknownAction {vocabulary : Vocabulary}
      (found : catalogue.vocabularies.byComponent.get? (Text.normalize component) =
        some vocabulary)
      (missing : vocabulary.actions.get? (Text.normalize action) = none) :
      Judged catalogue component action steps
        (some (.invalidInput (ModelError.unknownAction vocabulary.component action).message))
  | noSequences (knows : catalogue.Knows component action)
      (missing : catalogue.hierarchies.byComponent.get? (Text.normalize component) = none) :
      Judged catalogue component action steps
        (some (.invalidInput (ModelError.unknownComponent component).message))
  | unmatchedTypes (knows : catalogue.Knows component action) {sequences : List (List String)}
      (listed : catalogue.hierarchies.byComponent.get? (Text.normalize component) =
        some sequences)
      (unmatched : ¬(steps = [] ∨ ∃ types ∈ sequences, TypesBegin steps types)) :
      Judged catalogue component action steps
        (some (.unsupported
          (ModelError.unmatchedTypes component (steps.map Step.type)).message))
  | accepted (knows : catalogue.Knows component action) {sequences : List (List String)}
      (listed : catalogue.hierarchies.byComponent.get? (Text.normalize component) =
        some sequences)
      (matched : steps = [] ∨ ∃ types ∈ sequences, TypesBegin steps types) :
      Judged catalogue component action steps none

variable {catalogue : Catalogue} {component action : String} {steps : List Step}

theorem resolve_of_no_vocabulary
    (missing : catalogue.vocabularies.byComponent.get? (Text.normalize component) = none) :
    catalogue.resolve component action =
      .error (.invalidInput (ModelError.unknownComponent component).message) := by
  unfold resolve Vocabularies.resolve Vocabularies.component
  rw [missing]
  rfl

theorem resolve_of_no_action {vocabulary : Vocabulary}
    (found : catalogue.vocabularies.byComponent.get? (Text.normalize component) =
      some vocabulary)
    (missing : vocabulary.actions.get? (Text.normalize action) = none) :
    catalogue.resolve component action =
      .error (.invalidInput (ModelError.unknownAction vocabulary.component action).message) := by
  unfold resolve Vocabularies.resolve Vocabularies.component Vocabulary.resolve?
  rw [found]
  dsimp only
  rw [missing]
  rfl

/-- A path that is short enough is refused for a component without sequences. -/
theorem encode_of_no_sequences (short : steps.length ≤ Step.maxDepth)
    (missing : catalogue.hierarchies.byComponent.get? (Text.normalize component) = none) :
    catalogue.encode component steps =
      .error (.invalidInput (ModelError.unknownComponent component).message) := by
  have unlisted : catalogue.hierarchies.sequences component =
      .error (.unknownComponent component) := by
    unfold Hierarchies.sequences
    rw [show Text.lower (Text.trim component) = Text.normalize component from rfl, missing]
  unfold encode Hierarchies.encode Hierarchies.tagFor
  rw [dif_pos short, unlisted]
  rfl

/-- A path that is short enough and begins none of the sequences is refused for its types. -/
theorem encode_of_unmatched (short : steps.length ≤ Step.maxDepth)
    {sequences : List (List String)}
    (listed : catalogue.hierarchies.byComponent.get? (Text.normalize component) = some sequences)
    (unmatched : ¬(steps = [] ∨ ∃ types ∈ sequences, TypesBegin steps types)) :
    catalogue.encode component steps =
      .error
        (.unsupported (ModelError.unmatchedTypes component (steps.map Step.type)).message) := by
  obtain ⟨nonempty, unbegun⟩ := not_or.1 unmatched
  have nowhere : sequences.findIdx? (Hierarchies.begins steps) = none := by
    rw [List.findIdx?_eq_none_iff]
    exact fun types member =>
      Bool.eq_false_iff.2 fun begun => unbegun ⟨types, member, Hierarchies.begins_iff.1 begun⟩
  unfold encode Hierarchies.encode
  rw [dif_pos short, Hierarchies.tagFor_of_ne_nil (Hierarchies.sequences_eq_ok.2 listed) nonempty,
    nowhere]
  rfl

theorem exists_resolve_of_knows (knows : catalogue.Knows component action) :
    ∃ found, catalogue.resolve component action = .ok found := by
  obtain ⟨vocabulary, known, found, listed⟩ := knows
  exact ⟨known, StoreError.lift_eq_ok.2 (Vocabularies.resolve_eq_ok.2
    ⟨vocabulary, Vocabularies.component_eq_ok.2 found, listed⟩)⟩

variable (catalogue) in
/-- The action and the path of a privilege are both found, or whatever looks for one and then for
the other fails for the reason that is given. -/
theorem exists_judged {privilege : Privilege} (normal : privilege.Normal) (action : String) :
    (∃ found path, catalogue.resolve privilege.component action = .ok found ∧
        catalogue.encode privilege.component privilege.steps = .ok path ∧
        catalogue.Judged privilege.component action privilege.steps none) ∨
      ∃ reason, catalogue.Judged privilege.component action privilege.steps (some reason) ∧
        ∀ {Value : Type} (next : Action → StoredPath → Except StoreError Value),
          (do
            let found ← catalogue.resolve privilege.component action
            let path ← catalogue.encode privilege.component privilege.steps
            next found path) = .error reason := by
  cases found : catalogue.vocabularies.byComponent.get? (Text.normalize privilege.component) with
  | none =>
    refine Or.inr ⟨_, .unknownComponent found, fun next => ?_⟩
    rw [resolve_of_no_vocabulary found]
    rfl
  | some vocabulary =>
    cases known : vocabulary.actions.get? (Text.normalize action) with
    | none =>
      refine Or.inr ⟨_, .unknownAction found known, fun next => ?_⟩
      rw [resolve_of_no_action found known]
      rfl
    | some action =>
      have knows : catalogue.Knows privilege.component _ := ⟨vocabulary, action, found, known⟩
      obtain ⟨resolvedAction, resolved⟩ := exists_resolve_of_knows knows
      rw [resolved]
      cases listed :
          catalogue.hierarchies.byComponent.get? (Text.normalize privilege.component) with
      | none =>
        refine Or.inr ⟨_, .noSequences knows listed, fun next => ?_⟩
        rw [encode_of_no_sequences normal.shallow listed]
        rfl
      | some sequences =>
        by_cases matched : privilege.steps = [] ∨
            ∃ types ∈ sequences, TypesBegin privilege.steps types
        · obtain ⟨path, encoded⟩ := Hierarchies.exists_encode_iff.2 ⟨sequences, listed,
            normal.shallow, fun step member => Step.isStorable_iff.1 (normal.storable step member),
            matched⟩
          exact Or.inl ⟨resolvedAction, path, rfl, StoreError.lift_eq_ok.2 encoded,
            .accepted knows listed matched⟩
        · refine Or.inr ⟨_, .unmatchedTypes knows listed matched, fun next => ?_⟩
          rw [encode_of_unmatched normal.shallow listed matched]
          rfl

/-- A key that can be read back can be granted. -/
theorem Fits.exists_grantKey {key : RecordKey} (fits : catalogue.Fits key) (ledger : Ledger)
    (role grantor : String) (now : Timestamp) :
    ∃ next, ledger.grantKey catalogue role key grantor now = .ok next := by
  obtain ⟨all, isAll⟩ := fits.all
  obtain ⟨action, resolved, -⟩ := fits.action
  unfold Ledger.grantKey
  rw [isAll, resolved]
  dsimp only [bind, Except.bind]
  split
  · exact ⟨_, rfl⟩
  · split
    · exact ⟨_, rfl⟩
    · exact ⟨_, rfl⟩

end Catalogue

/-! ### Edits that come to their ends -/

/-- An edit of items that comes to each of them and fails at none. -/
structure Edited.Walks {Item : Type} (edit : Ledger → Item → Except StoreError Ledger)
    (ledger : Ledger) (items : List Item) (edited : Edited) : Prop where
  walked : edited = Edited.each edit ledger items
  ended : edited.failure = none
  unhindered : ∀ before item after, items = before ++ item :: after →
    ∃ current next, Edited.each edit ledger before = ⟨current, none⟩ ∧
      edit current item = .ok next

theorem Edited.walks_of_foldlM {Item : Type} {edit : Ledger → Item → Except StoreError Ledger}
    {ledger next : Ledger} {items : List Item} (folded : items.foldlM edit ledger = .ok next) :
    Edited.Walks edit ledger items (Edited.each edit ledger items) where
  walked := rfl
  ended := by rw [each_of_foldlM folded]
  unhindered before item after parts := by
    rw [parts, List.foldlM_append] at folded
    obtain ⟨current, reached, folded⟩ := bind_eq_ok.1 folded
    rw [List.foldlM_cons] at folded
    obtain ⟨following, edited, -⟩ := bind_eq_ok.1 folded
    exact ⟨current, following, each_of_foldlM reached, edited⟩

namespace Ledger

variable {catalogue : Catalogue} {ledger : Ledger}

/-- A ledger in which every edit of privileges is refused for the reasons listed and for no other,
in which an edit that is refused changes nothing, and in which the privileges of roles and of
services can always be read. -/
structure AllOrNothing (catalogue : Catalogue) (ledger : Ledger) : Prop where
  unknownRole : ∀ role privilege grantor now, ledger.hasRole role = false →
    let refused : Edited := ⟨ledger, some (.noSuchObject ("role " ++ Text.normalize role))⟩
    ledger.grant catalogue role privilege grantor now = refused ∧
      ledger.revoke catalogue role privilege grantor now = refused
  grant : ∀ role (privilege : Privilege) grantor now, ledger.hasRole role = true →
    privilege.Made →
    let edited := ledger.grant catalogue role privilege grantor now
    catalogue.Judged privilege.component privilege.action privilege.steps edited.failure ∧
      ((∃ reason, edited = ⟨ledger, some reason⟩) ∨ edited.failure = none)
  revoke : ∀ role (privilege : Privilege) grantor now, ledger.hasRole role = true →
    privilege.Made →
    let edited := ledger.revoke catalogue role privilege grantor now
    catalogue.Judged privilege.component privilege.action privilege.steps edited.failure ∧
      ((∃ reason, edited = ⟨ledger, some reason⟩) ∨
        ∃ action numbers, edited.Walks (fun ledger number =>
          ledger.revokeRecord catalogue (Text.normalize role) action number grantor now) ledger
          numbers)
  drop : ∀ (privilege : Privilege) requestor now, privilege.Made →
    let edited := ledger.drop catalogue privilege requestor now
    catalogue.Judged privilege.component (droppedAction privilege) privilege.steps
        edited.failure ∧
      ((∃ reason, edited = ⟨ledger, some reason⟩) ∨
        ∃ action holdings, edited.Walks (fun ledger holding =>
          ledger.revokeRecord catalogue (Holding.role holding) action holding.record requestor
            now) ledger holdings)
  privilegesOfRoles : ∀ roles, ∃ held, ledger.privilegesOfRoles catalogue roles = .ok held
  privilegesOfService : ∀ component service roles steps,
    ∃ found, ledger.privilegesOfService catalogue component service roles steps = .ok found

theorem requireRole_of_unknown {role : String} (unknown : ledger.hasRole role = false) :
    ledger.requireRole role = .error (.noSuchObject ("role " ++ Text.normalize role)) := by
  have missing : ledger.roles.contains (Text.normalize role) = false := unknown
  unfold requireRole
  dsimp only
  rw [missing]
  rfl

/-- A privilege that has a key can be granted to a role that exists. -/
theorem exists_grant_of_toKey (registered : catalogue.Registered) {role : String}
    (known : ledger.hasRole role = true) {privilege : Privilege} {key : RecordKey}
    (keyed : catalogue.toKey privilege = .ok key) (grantor : String) (now : Timestamp) :
    ∃ next, ledger.grant catalogue role privilege grantor now = ⟨next, none⟩ := by
  obtain ⟨next, granted⟩ := (Catalogue.fits_of_toKey registered keyed).exists_grantKey ledger
    (Text.normalize role) grantor now
  refine ⟨next, ?_⟩
  rw [Ledger.grant, requireRole_eq_ok.2 ⟨known, rfl⟩, keyed]
  dsimp only [bind, Except.bind]
  rw [granted]
  rfl

/-- A grant to a role that exists comes to its end unless there is a reason to refuse it. -/
theorem grant_judged (registered : catalogue.Registered) {role : String}
    (known : ledger.hasRole role = true) {privilege : Privilege} (made : privilege.Made)
    (grantor : String) (now : Timestamp) :
    let edited := ledger.grant catalogue role privilege grantor now
    catalogue.Judged privilege.component privilege.action privilege.steps edited.failure ∧
      ((∃ reason, edited = ⟨ledger, some reason⟩) ∨ edited.failure = none) := by
  dsimp only
  rcases catalogue.exists_judged made.normal privilege.action with
    ⟨action, path, resolved, encoded, judged⟩ | ⟨reason, judged, refused⟩
  · obtain ⟨next, ended⟩ := exists_grant_of_toKey registered known
      (Catalogue.toKey_eq_ok.2 ⟨action, path, resolved, encoded, rfl⟩) grantor now
    rw [ended]
    exact ⟨judged, Or.inr rfl⟩
  · have unkeyed : catalogue.toKey privilege = .error reason := refused _
    have ended : ledger.grant catalogue role privilege grantor now = ⟨ledger, some reason⟩ := by
      rw [Ledger.grant, requireRole_eq_ok.2 ⟨known, rfl⟩, unkeyed]
      rfl
    rw [ended]
    exact ⟨judged, Or.inl ⟨reason, rfl⟩⟩

namespace Coherent

variable (coherent : ledger.Coherent catalogue) (registered : catalogue.Registered)

include coherent registered

/-- A revocation from a role that exists goes through its records unless there is a reason to refuse
it. -/
theorem revoke_judged {role : String} (known : ledger.hasRole role = true) {privilege : Privilege}
    (made : privilege.Made) (grantor : String) (now : Timestamp) :
    let edited := ledger.revoke catalogue role privilege grantor now
    catalogue.Judged privilege.component privilege.action privilege.steps edited.failure ∧
      ((∃ reason, edited = ⟨ledger, some reason⟩) ∨
        ∃ action numbers, edited.Walks (fun ledger number =>
          ledger.revokeRecord catalogue (Text.normalize role) action number grantor now) ledger
          numbers) := by
  dsimp only
  rcases catalogue.exists_judged made.normal privilege.action with
    ⟨action, path, resolved, encoded, judged⟩ | ⟨reason, judged, refused⟩
  · obtain ⟨entries, included⟩ := coherent.exists_included (Target.ofPrivilege privilege)
      (some (OrderedSet.ofList [Text.normalize role]))
    have chosen := mem_included_of_role included
    obtain ⟨next, folded, -⟩ := coherent.foldlM_revokeRecord registered coherent (.refl ledger)
      (fun holding member => ((chosen holding).1 member).1) action grantor now
    have numbered : (entries.map Prod.fst).foldlM (fun ledger number => ledger.revokeRecord
        catalogue (Text.normalize role) action number grantor now) ledger = .ok next := by
      rw [← folded, List.foldlM_map, List.foldlM_map]
    have walks := Edited.walks_of_foldlM numbered
    rw [revoke_eq_each registered known resolved encoded included, walks.ended]
    exact ⟨judged, Or.inr ⟨action, _, walks⟩⟩
  · have unkeyed : catalogue.toKey privilege = .error reason := refused _
    have ended : ledger.revoke catalogue role privilege grantor now = ⟨ledger, some reason⟩ := by
      rw [Ledger.revoke, requireRole_eq_ok.2 ⟨known, rfl⟩, unkeyed]
      rfl
    rw [ended]
    exact ⟨judged, Or.inl ⟨reason, rfl⟩⟩

/-- A drop goes through the holdings of all roles unless there is a reason to refuse it. -/
theorem drop_judged {privilege : Privilege} (made : privilege.Made) (requestor : String)
    (now : Timestamp) :
    let edited := ledger.drop catalogue privilege requestor now
    catalogue.Judged privilege.component (droppedAction privilege) privilege.steps
        edited.failure ∧
      ((∃ reason, edited = ⟨ledger, some reason⟩) ∨
        ∃ action holdings, edited.Walks (fun ledger holding =>
          ledger.revokeRecord catalogue (Holding.role holding) action holding.record requestor
            now) ledger holdings) := by
  dsimp only
  rcases catalogue.exists_judged made.normal (droppedAction privilege) with
    ⟨action, path, resolved, encoded, judged⟩ | ⟨reason, judged, refused⟩
  · obtain ⟨entries, found⟩ := coherent.exists_included (Target.ofPrivilege privilege) none
    have included : ledger.includedHoldings catalogue (Target.ofPrivilege privilege) = .ok _ :=
      map_eq_ok.2 ⟨entries, found, rfl⟩
    have chosen := mem_includedHoldings included
    obtain ⟨next, folded, -⟩ := coherent.foldlM_revokeRecord registered coherent (.refl ledger)
      (fun holding member => ((chosen holding).1 member).1) action requestor now
    have walks := Edited.walks_of_foldlM folded
    rw [drop_eq_each resolved encoded included, walks.ended]
    exact ⟨judged, Or.inr ⟨action, _, walks⟩⟩
  · have ended : ledger.drop catalogue privilege requestor now = ⟨ledger, some reason⟩ := by
      rw [Ledger.drop, refused]
    rw [ended]
    exact ⟨judged, Or.inl ⟨reason, rfl⟩⟩

end Coherent

/-- In every reachable ledger an edit of privileges comes to its end, or it is refused for one of
the reasons listed and has changed nothing. Queries never fail. -/
theorem edits_all_or_nothing (registered : catalogue.Registered)
    (reached : Reachable catalogue ledger) : ledger.AllOrNothing catalogue := by
  have coherent := reached.coherent registered
  constructor
  case unknownRole =>
    intro role privilege grantor now unknown
    have missing := requireRole_of_unknown unknown
    constructor
    · rw [Ledger.grant, missing]
      rfl
    · rw [Ledger.revoke, missing]
      rfl
  case grant =>
    exact fun _ _ grantor now known made => grant_judged registered known made grantor now
  case revoke =>
    exact fun _ _ grantor now known made => coherent.revoke_judged registered known made grantor now
  case drop => exact fun _ requestor now made => coherent.drop_judged registered made requestor now
  case privilegesOfRoles =>
    intro roles
    obtain ⟨held, read, -⟩ := coherent.privilegesOfRoles roles
    exact ⟨held, read⟩
  case privilegesOfService =>
    intro component service roles steps
    obtain ⟨entries, included⟩ :=
      coherent.exists_included (Target.ofService component service steps) roles
    obtain ⟨found, read, -⟩ := coherent.exists_ofRecords fun entry member =>
      record?_of_mem_candidates ((mem_filterM_eq_ok included entry).1 member).1
    exact ⟨_, bind_eq_ok.2 ⟨entries, included, read⟩⟩

/-- A grant for an action that the library does not have and one for a path of a page are refused.
Reading is taken from a role with several records, and nothing refuses it. -/
theorem edits_all_or_nothing_library :
    ∃ ledger : Ledger, Reachable Catalogue.library ledger ∧
      ledger.holdings.elements = [⟨"clerks", 1⟩, ⟨"clerks", 2⟩, ⟨"clerks", 3⟩] ∧
      (ledger.grant Catalogue.library "Clerks" (libraryPrivilege "burn") "olga" default).failure =
        some (.invalidInput (ModelError.unknownAction "library" "burn").message) ∧
      (ledger.drop Catalogue.library { libraryPrivilege "read" with steps := [⟨"page", "a"⟩] }
          "olga" default).failure =
        some (.unsupported (ModelError.unmatchedTypes "library" ["page"]).message) ∧
      (ledger.revoke Catalogue.library "Clerks" (libraryPrivilege "read") "olga" default).failure =
        none ∧
      ledger.AllOrNothing Catalogue.library := by
  let mending : Privilege :=
    { libraryPrivilege "mend" with steps := [⟨"shelf", "a"⟩, ⟨"book", "b"⟩] }
  let named := (Operation.createRole "Clerks" default).apply Catalogue.library empty
  let whole := (Operation.grant "Clerks" (libraryPrivilege "all") "olga" default).apply
    Catalogue.library named.ledger
  let mended := (Operation.grant "Clerks" mending "olga" default).apply Catalogue.library
    whole.ledger
  let reading := (Operation.grant "Clerks" (libraryReading [⟨"shelf", "c"⟩]) "olga" default).apply
    Catalogue.library mended.ledger
  have reached : Reachable Catalogue.library reading.ledger :=
    .apply (.apply (.apply (.apply .empty _) _) _) _
  refine ⟨reading.ledger, reached, ?_, ?_, ?_, ?_,
    edits_all_or_nothing Catalogue.registered_library reached⟩
  · decide +kernel
  · decide +kernel
  · decide +kernel
  · decide +kernel

end Ledger

end Entitlement
