/-
This file holds the vault, which keeps the committed ledger and lets it be read and changed in
transactions. A writing transaction works on a copy of its own and excludes all others for as
long as it runs; reading ones exclude only writing ones. A vault may keep a file, which every
commit writes anew: first under a temporary path, then moved into place. When that fails the
commit fails, and the committed ledger stays as it was.
-/

import Entitlement.Disk
import Entitlement.Ledger.Json

namespace Entitlement

/-- A transaction that runs, with the ledger that it shows. -/
inductive Transaction where
  | reading (view : Ledger)
  | writing (draft : Ledger)
deriving DecidableEq

namespace Transaction

def ledger : Transaction → Ledger
  | reading view => view
  | writing draft => draft

def isWriting : Transaction → Bool
  | reading _ => false
  | writing _ => true

end Transaction

structure Vault where
  committed : Ledger
  /-- How many milliseconds a transaction may wait for others to end. -/
  patience : Nat
  /-- The file that commits write, if there is one. -/
  path : Option String
  disk : Disk
  /-- Why every commit is refused at present, if it is. -/
  refusal : Option StoreError
  running : OrderedMap Nat Transaction
  /-- The number of the last transaction that began. -/
  lastTransaction : Nat

namespace Vault

/-! ### Opening -/

/-- A vault without a file. -/
def ofLedger (ledger : Ledger) (patience : Nat) (disk : Disk) : Vault where
  committed := ledger
  patience := patience
  path := none
  disk := disk
  refusal := none
  running := OrderedMap.empty
  lastTransaction := 0

/-- The ledger in a file, or an empty one if there is no file. -/
def ledgerOfFile (disk : Disk) (path : String) : Except StoreError Ledger :=
  match disk.read path with
  | .error .notFound => .ok Ledger.empty
  | .error reason =>
    .error (.unavailable (s!"cannot read store file {path}: " ++ reason.message))
  | .ok text =>
    match Ledger.ofText? text with
    | some ledger => .ok ledger
    | none => .error (.unavailable s!"corrupt store file {path}")

/-- A vault that keeps a file. -/
def ofFile (disk : Disk) (path : String) (patience : Nat) : Except StoreError Vault :=
  (ledgerOfFile disk path).map fun ledger =>
    { ofLedger ledger patience disk with path := some path }

/-! ### Beginning and ending -/

def hasWriter (vault : Vault) : Bool :=
  vault.running.entries.any fun entry => entry.2.isWriting

def isIdle (vault : Vault) : Bool :=
  vault.running.entries.isEmpty

/-- The vault with one more transaction, and the number of that transaction. -/
def start (vault : Vault) (transaction : Transaction) : Nat × Vault :=
  let number := vault.lastTransaction + 1
  (number, { vault with
    running := vault.running.insert number transaction
    lastTransaction := number })

/-- A writing transaction, unless any other runs. -/
def beginWrite (vault : Vault) : Except StoreError (Nat × Vault) :=
  if vault.isIdle then .ok (vault.start (.writing vault.committed))
  else .error (.unavailable s!"write transaction not available after {vault.patience}ms")

/-- A reading transaction, unless a writing one runs. -/
def beginRead (vault : Vault) : Except StoreError (Nat × Vault) :=
  if vault.hasWriter then
    .error (.unavailable s!"read transaction not available after {vault.patience}ms")
  else .ok (vault.start (.reading vault.committed))

/-- The ledger that a transaction shows. -/
def look? (vault : Vault) (number : Nat) : Option Ledger :=
  (vault.running.get? number).map Transaction.ledger

/-- The vault with another draft in a writing transaction. -/
def edit (vault : Vault) (number : Nat) (draft : Ledger) : Vault :=
  match vault.running.get? number with
  | some (.writing _) =>
    { vault with running := vault.running.insert number (.writing draft) }
  | _ => vault

/-- The vault without a transaction, whose draft is lost. -/
def discard (vault : Vault) (number : Nat) : Vault :=
  { vault with running := vault.running.erase number }

/-! ### Committing -/

/-- Where the file is written before it is moved into place. -/
def temporaryPath (path : String) : String :=
  path ++ ".tmp"

/-- The disk after a try to write the ledger to its file, and what went wrong. -/
def save (disk : Disk) (path : String) (ledger : Ledger) : Disk × Option StoreError :=
  let temporary := temporaryPath path
  match disk.write temporary ledger.prettyText with
  | .error reason =>
    (disk, some (.unavailable (s!"cannot write {temporary}: " ++ reason.message)))
  | .ok written =>
    match written.rename temporary path with
    | .error reason =>
      (written, some (.unavailable (s!"cannot replace {path}: " ++ reason.message)))
    | .ok moved => (moved, none)

/-- The vault with the ledger committed and saved, and what went wrong if it is not. -/
def accept (vault : Vault) (ledger : Ledger) : Vault × Option StoreError :=
  match vault.refusal with
  | some reason => (vault, some reason)
  | none =>
    match vault.path with
    | none => ({ vault with committed := ledger }, none)
    | some path =>
      match save vault.disk path ledger with
      | (disk, some reason) => ({ vault with disk := disk }, some reason)
      | (disk, none) => ({ vault with disk := disk, committed := ledger }, none)

/-- The end of a writing transaction whose draft becomes the committed ledger. The transaction
is over even when the commit fails. -/
def commit (vault : Vault) (number : Nat) : Vault × Option StoreError :=
  match vault.running.get? number with
  | some (.writing draft) => (vault.discard number).accept draft
  | _ => (vault, none)

end Vault

end Entitlement
