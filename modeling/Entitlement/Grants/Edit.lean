/-
This file grants, revokes, drops and renames privileges in a ledger. A role never holds both
`all` and one of its members for the same path: granting `all` takes the members away, granting
a member to a role that holds `all` changes nothing, and revoking a member from `all` leaves
the other members in its place.

An edit of several records stops at the first that fails, and what it has done until then
stays done. Whoever needs all or nothing edits a copy.
-/

import Entitlement.Grants.Lookup

namespace Entitlement

/-- The ledger that an edit has reached, and why it stopped if it did not come to its end. -/
structure Edited where
  ledger : Ledger
  failure : Option StoreError

namespace Edited

/-- The ledger of an edit that came to its end. -/
def result (edited : Edited) : Except StoreError Ledger :=
  match edited.failure with
  | none => .ok edited.ledger
  | some reason => .error reason

/-- An edit that fails before it changes anything. -/
def ofResult (ledger : Ledger) (result : Except StoreError Ledger) : Edited :=
  match result with
  | .ok next => ⟨next, none⟩
  | .error reason => ⟨ledger, some reason⟩

/-- An edit of one item after the other. -/
def each {Item : Type} (edit : Ledger → Item → Except StoreError Ledger) (ledger : Ledger) :
    List Item → Edited
  | [] => ⟨ledger, none⟩
  | item :: rest =>
    match edit ledger item with
    | .ok next => each edit next rest
    | .error reason => ⟨ledger, some reason⟩

end Edited

namespace Ledger

/-! ### One record and one role -/

/-- The ledger in which the role does not hold the key for any of the actions. -/
def withoutActions (ledger : Ledger) (role : String) (key : RecordKey) (actions : List Action) :
    Ledger :=
  actions.foldl (fun ledger action =>
    match ledger.findRecord? (key.withAction action.name) with
    | some number => ledger.detach role number
    | none => ledger) ledger

/-- The ledger in which the role holds the key. -/
def withHolding (ledger : Ledger) (role : String) (key : RecordKey) (grantor : String)
    (now : Timestamp) : Ledger :=
  let (number, ledger) := ledger.ensureRecord key grantor now
  ledger.attach role number

/-- Whether the role holds the key. -/
def holdsKey (ledger : Ledger) (role : String) (key : RecordKey) : Bool :=
  match ledger.findRecord? key with
  | some number => ledger.holds role number
  | none => false

/-- A key granted to a role. -/
def grantKey (ledger : Ledger) (catalogue : Catalogue) (role : String) (key : RecordKey)
    (grantor : String) (now : Timestamp) : Except StoreError Ledger := do
  let all ← catalogue.all key.component
  let action ← catalogue.resolve key.component key.action
  if action == all then
    return (ledger.withoutActions role key all.members).withHolding role key grantor now
  else if ledger.holdsKey role (key.withAction all.name) then
    return ledger
  else
    return ledger.withHolding role key grantor now

/-- A record taken from a role as far as the action goes: the whole record when the action is
`all` or the record's own, and one member when the record is for `all`. -/
def revokeRecord (ledger : Ledger) (catalogue : Catalogue) (role : String) (action : Action)
    (number : Nat) (grantor : String) (now : Timestamp) : Except StoreError Ledger := do
  match ledger.record? number with
  | none => return ledger
  | some record =>
    let all ← catalogue.all record.key.component
    let held ← catalogue.resolve record.key.component record.key.action
    if action == all then
      return ledger.detach role number
    else if held == all then
      return (all.leftovers action).foldl (fun ledger left =>
        ledger.withHolding role (record.key.withAction left.name) grantor now)
        (ledger.detach role number)
    else if held == action then
      return ledger.detach role number
    else
      return ledger

/-! ### The four edits -/

def grant (ledger : Ledger) (catalogue : Catalogue) (role : String) (privilege : Privilege)
    (grantor : String) (now : Timestamp) : Edited :=
  Edited.ofResult ledger do
    let role ← ledger.requireRole role
    let key ← catalogue.toKey privilege
    ledger.grantKey catalogue role key grantor now

/-- The privilege, and all that it includes, taken from a role. -/
def revoke (ledger : Ledger) (catalogue : Catalogue) (role : String) (privilege : Privilege)
    (grantor : String) (now : Timestamp) : Edited :=
  let plan : Except StoreError (String × Action × List Nat) := do
    let role ← ledger.requireRole role
    let key ← catalogue.toKey privilege
    let action ← catalogue.resolve key.component key.action
    let entries ← ledger.included catalogue (Target.ofPrivilege privilege)
      (some (OrderedSet.ofList [role]))
    return (role, action, entries.map Prod.fst)
  match plan with
  | .error reason => ⟨ledger, some reason⟩
  | .ok (role, action, numbers) =>
    Edited.each (fun ledger number =>
      ledger.revokeRecord catalogue role action number grantor now) ledger numbers

/-- The name of the action to drop. A blank one stands for all actions. -/
def droppedAction (privilege : Privilege) : String :=
  if Text.isBlankText privilege.action then Action.allName else privilege.action

/-- The privilege, and all that it includes, taken from every role. -/
def drop (ledger : Ledger) (catalogue : Catalogue) (privilege : Privilege) (requestor : String)
    (now : Timestamp) : Edited :=
  let plan : Except StoreError (Action × List Holding) := do
    let action ← catalogue.resolve privilege.component (droppedAction privilege)
    let _ ← catalogue.encode privilege.component privilege.steps
    let holdings ← ledger.includedHoldings catalogue (Target.ofPrivilege privilege)
    return (action, holdings)
  match plan with
  | .error reason => ⟨ledger, some reason⟩
  | .ok (action, holdings) =>
    Edited.each (fun ledger holding =>
      ledger.revokeRecord catalogue holding.role action holding.record requestor now)
      ledger holdings

/-- The path with its leading steps replaced. -/
def replaceSteps (replacement steps : List Step) : List Step :=
  replacement.take steps.length ++ steps.drop replacement.length

/-- A holding moved to the path with its leading steps replaced. -/
def moveHolding (ledger : Ledger) (catalogue : Catalogue) (component : String) (all : Action)
    (replacement : List Step) (now : Timestamp) (holding : Holding) :
    Except StoreError Ledger := do
  match ledger.record? holding.record with
  | none => return ledger
  | some record =>
    let steps ← catalogue.decode component record.key.path
    let path ← catalogue.encode component (replaceSteps replacement steps)
    let ledger ← ledger.revokeRecord catalogue holding.role all holding.record record.grantor now
    ledger.grantKey catalogue holding.role { record.key with path := path } record.grantor now

/-- Every privilege of a service under the old path moved to the new one. Deeper steps,
actions, scopes, grant options and roles stay as they are. -/
def rename (ledger : Ledger) (catalogue : Catalogue) (component service : String)
    (old new : List Step) (now : Timestamp) : Edited :=
  let name := Text.lower (Text.trim component)
  let replacement := new.map Step.lowered
  let plan : Except StoreError (Action × List Holding) := do
    if old.length ≠ new.length then
      throw (.invalidInput (s!"rename needs paths of equal length, got {old.length}" ++
        s!" and {new.length}"))
    let _ ← catalogue.encode name (old.map Step.lowered)
    let _ ← catalogue.encode name replacement
    let all ← catalogue.all name
    let holdings ← ledger.includedHoldings catalogue (Target.ofService component service old)
    return (all, holdings)
  match plan with
  | .error reason => ⟨ledger, some reason⟩
  | .ok (all, holdings) =>
    Edited.each (fun ledger holding =>
      ledger.moveHolding catalogue name all replacement now holding) ledger holdings

end Ledger

end Entitlement
