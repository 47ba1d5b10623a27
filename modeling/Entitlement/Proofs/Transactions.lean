/-
This file says what can come of a request to a vault, and how the history of a vault is read. Every
request has one of a few outcomes, each with what it changes (`Vault.Served`). A history is a list of
outcomes, the latest first, and functions that go through it from there tell which transactions run,
what each of them shows and which ledger is committed.
-/

import Entitlement.Proofs.Undisturbed

namespace Entitlement

/-! ### Requests and what comes of them -/

namespace Vault

/-- What a vault can be asked to do, and what can befall it. -/
inductive Request where
  | beginWrite
  | beginRead
  /-- Another draft for a writing transaction. -/
  | edit (number : Nat) (draft : Ledger)
  | commit (number : Nat)
  /-- A transaction is rolled back or dropped. -/
  | leave (number : Nat)
  /-- The disk changes, and commits are refused from now on or no longer. -/
  | befall (disk : Disk) (refusal : Option StoreError)

/-- What came of a request. -/
inductive Happening where
  | began (number : Nat) (writes : Bool)
  | refused (reason : StoreError)
  | edited (number : Nat) (draft : Ledger)
  | committed (number : Nat)
  | failed (number : Nat) (reason : StoreError)
  | left (number : Nat)
  /-- No transaction was concerned. -/
  | aside
deriving DecidableEq

/-- What comes of a request, and the vault after it. A transaction that does not run cannot be
worked on or ended, nor can a reading one be edited or committed. -/
def serve (vault : Vault) : Request → Happening × Vault
  | .beginWrite =>
    match vault.beginWrite with
    | .ok (number, next) => (.began number true, next)
    | .error reason => (.refused reason, vault)
  | .beginRead =>
    match vault.beginRead with
    | .ok (number, next) => (.began number false, next)
    | .error reason => (.refused reason, vault)
  | .edit number draft =>
    match vault.running.get? number with
    | some (.writing _) => (.edited number draft, vault.edit number draft)
    | _ => (.aside, vault)
  | .commit number =>
    match vault.running.get? number with
    | some (.writing _) =>
      match vault.commit number with
      | (next, none) => (.committed number, next)
      | (next, some reason) => (.failed number reason, next)
    | _ => (.aside, vault)
  | .leave number =>
    match vault.running.get? number with
    | some _ => (.left number, vault.discard number)
    | none => (.aside, vault)
  | .befall disk refusal => (.aside, { vault with disk := disk, refusal := refusal })

end Vault

/-! ### Reading a history -/

namespace Vault.Happening

/-- The transaction that began. -/
def begun? : Happening → Option Nat
  | began number _ => some number
  | _ => none

/-- The transaction that ended. -/
def ended? : Happening → Option Nat
  | committed number | failed number _ | left number => some number
  | _ => none

/-- Whether the transaction runs and, if so, whether it writes. -/
def runs? (number : Nat) : List Happening → Option Bool
  | [] => none
  | happening :: past =>
    match happening with
    | began other writes => if other = number then some writes else runs? number past
    | _ => if happening.ended? = some number then none else runs? number past

/-- What had happened when the transaction began. -/
def before (number : Nat) : List Happening → List Happening
  | [] => []
  | began other _ :: past => if other = number then past else before number past
  | _ :: past => before number past

mutual

/-- The committed ledger: the draft of the last transaction that was committed, or the first one. -/
def committedAfter (first : Ledger) : List Happening → Ledger
  | [] => first
  | committed number :: past => shownAfter first number past
  | _ :: past => committedAfter first past

/-- The ledger of a transaction: its last draft, or the ledger that was committed when it began. -/
def shownAfter (first : Ledger) (number : Nat) : List Happening → Ledger
  | [] => first
  | began other _ :: past =>
    if other = number then committedAfter first past else shownAfter first number past
  | edited other draft :: past =>
    if other = number then draft else shownAfter first number past
  | _ :: past => shownAfter first number past

end

/-- The history without the drafts of a transaction. -/
def forget (number : Nat) (past : List Happening) : List Happening :=
  past.filter fun happening =>
    match happening with
    | edited other _ => other != number
    | _ => true

end Vault.Happening

/-! ### One request -/

namespace Vault

variable {vault : Vault}

/-- The vault with one more transaction. -/
def opened (vault : Vault) (transaction : Transaction) : Vault :=
  (vault.start transaction).2

theorem isIdle_iff : vault.isIdle = true ↔ ∀ number, vault.running.get? number = none := by
  unfold isIdle
  rw [List.isEmpty_iff]
  constructor
  · intro none number
    rw [show vault.running = OrderedMap.empty from OrderedMap.ext none, OrderedMap.get?_empty]
  · intro none
    refine List.eq_nil_iff_forall_not_mem.2 fun entry member => ?_
    rw [← OrderedMap.get?_eq_some_iff_mem, none] at member
    cases member

theorem hasWriter_iff :
    vault.hasWriter = true ↔ ∃ number draft, vault.running.get? number = some (.writing draft) := by
  unfold hasWriter
  rw [List.any_eq_true]
  constructor
  · rintro ⟨⟨number, _ | draft⟩, member, writes⟩
    · cases writes
    · exact ⟨number, draft, OrderedMap.get?_eq_some_iff_mem.2 member⟩
  · rintro ⟨number, draft, found⟩
    exact ⟨(number, .writing draft), OrderedMap.get?_eq_some_iff_mem.1 found, rfl⟩

theorem lastTransaction_accept (vault : Vault) (ledger : Ledger) :
    (vault.accept ledger).1.lastTransaction = vault.lastTransaction := by
  unfold accept
  split
  · rfl
  split
  · rfl
  split
  · rfl
  · rfl

/-- What can come of a request: a transaction begins, or cannot because of others; a writing one
gets another draft; it ends, and what is committed is its draft or what was committed before; a
transaction is left; or none is concerned. -/
inductive Served (vault : Vault) : Happening × Vault → Prop where
  | beganWriting (idle : vault.isIdle = true) :
      Served vault (.began (vault.lastTransaction + 1) true,
        vault.opened (.writing vault.committed))
  | beganReading (free : vault.hasWriter = false) :
      Served vault (.began (vault.lastTransaction + 1) false,
        vault.opened (.reading vault.committed))
  | refused (reason : StoreError) : Served vault (.refused reason, vault)
  | edited {number : Nat} {draft : Ledger} (next : Ledger)
      (runs : vault.running.get? number = some (.writing draft)) :
      Served vault (.edited number next,
        { vault with running := vault.running.insert number (.writing next) })
  | committed {number : Nat} {draft : Ledger} {next : Vault}
      (runs : vault.running.get? number = some (.writing draft))
      (running : next.running = vault.running.erase number)
      (last : next.lastTransaction = vault.lastTransaction) (saved : next.committed = draft) :
      Served vault (.committed number, next)
  | failed {number : Nat} {draft : Ledger} {next : Vault} (reason : StoreError)
      (runs : vault.running.get? number = some (.writing draft))
      (running : next.running = vault.running.erase number)
      (last : next.lastTransaction = vault.lastTransaction)
      (kept : next.committed = vault.committed) :
      Served vault (.failed number reason, next)
  | left {number : Nat} {transaction : Transaction}
      (runs : vault.running.get? number = some transaction) :
      Served vault (.left number, vault.discard number)
  | aside (disk : Disk) (refusal : Option StoreError) :
      Served vault (.aside, { vault with disk := disk, refusal := refusal })

theorem served (vault : Vault) (request : Request) : Served vault (vault.serve request) := by
  have stays : Served vault (.aside, vault) := .aside vault.disk vault.refusal
  cases request with
  | beginWrite =>
    simp only [serve, beginWrite]
    split
    · next began =>
      split at began
      · next idle =>
        cases began
        exact .beganWriting idle
      · cases began
    · exact .refused _
  | beginRead =>
    simp only [serve, beginRead]
    split
    · next began =>
      split at began
      · cases began
      · next free =>
        cases began
        exact .beganReading (Bool.eq_false_iff.2 free)
    · exact .refused _
  | edit number draft =>
    simp only [serve]
    split
    · next earlier runs =>
      simp only [edit, runs]
      exact .edited draft runs
    · exact stays
  | commit number =>
    simp only [serve]
    split
    · next draft runs =>
      obtain ⟨running, -⟩ := (vault.discard number).accept_aside draft
      have last := (vault.discard number).lastTransaction_accept draft
      simp only [commit, runs]
      rcases (vault.discard number).accept_cases draft with ⟨next, accepted, saved⟩ |
        ⟨next, reason, accepted, kept⟩
      · rw [accepted] at running last ⊢
        exact .committed runs running last saved
      · rw [accepted] at running last ⊢
        exact .failed reason runs running last kept
    · exact stays
  | leave number =>
    simp only [serve]
    split
    · next transaction runs => exact .left runs
    · exact stays
  | befall disk refusal => exact .aside disk refusal

end Vault

end Entitlement
