/-
This file proves that a store and its file stay together. A commit writes the file before it takes
the ledger over, and when the file cannot be replaced it keeps both as they were. So after every
call the file is absent and the ledger empty, or the file holds just the committed ledger. Whoever
opens the file then gets a store that takes the place of the other.
-/

import Entitlement.Proofs.Reachable
import Entitlement.Proofs.Reopening
import Entitlement.Proofs.Saving
import Entitlement.Proofs.Words

namespace Entitlement

namespace Vault

/-! ### Files -/

/-- The file is absent and the committed ledger empty, or the file holds the committed ledger. -/
def Saved (path : String) (vault : Vault) : Prop :=
  (vault.disk.read path = .error .notFound ∧ vault.committed = Ledger.empty) ∨
    ∃ text, vault.disk.read path = .ok text ∧ Ledger.ofText? text = some vault.committed

theorem ledgerOfFile_eq_ok {disk : Disk} {path : String} {ledger : Ledger} :
    ledgerOfFile disk path = .ok ledger ↔
      (disk.read path = .error .notFound ∧ ledger = Ledger.empty) ∨
        ∃ text, disk.read path = .ok text ∧ Ledger.ofText? text = some ledger := by
  unfold ledgerOfFile
  cases disk.read path with
  | error reason => cases reason <;> simp [eq_comm]
  | ok text =>
    cases decoded : Ledger.ofText? text with
    | none => simp [decoded]
    | some found => simp [decoded]

/-- A file that is saved can be opened, and opens with the committed ledger. -/
theorem Saved.ofFile {path : String} {vault : Vault} (saved : vault.Saved path) (patience : Nat) :
    ofFile vault.disk path patience =
      .ok { ofLedger vault.committed patience vault.disk with path := some path } := by
  rw [Vault.ofFile, ledgerOfFile_eq_ok.2 saved]
  rfl

/-- What befalls a vault whose file others leave alone: everything else on the disk changes, so
that the file cannot be replaced for a while; commits fail; others begin and end transactions. -/
def SparesFile (path : String) (vault next : Vault) : Prop :=
  next.committed = vault.committed ∧ next.path = vault.path ∧
    next.disk.read path = vault.disk.read path

/-- A vault whose file keeps up with its ledger for as long as the numbers of records last. -/
structure Persists (path : String) (vault : Vault) : Prop where
  file : vault.path = some path
  inWords : vault.committed.InWords
  saved : vault.committed.lastRecord < Nat.pow 2 64 → vault.Saved path

namespace Persists

variable {path : String} {vault next : Vault}

theorem ofFile {disk : Disk} {patience : Nat} (opened : ofFile disk path patience = .ok vault) :
    vault.Persists path := by
  obtain ⟨ledger, found, rfl⟩ := map_eq_ok.1 opened
  have saved := ledgerOfFile_eq_ok.1 found
  refine ⟨rfl, ?_, fun _ => saved⟩
  rcases saved with ⟨-, rfl⟩ | ⟨text, -, reads⟩
  · exact .empty
  · exact .of_ofText? reads

variable (persists : vault.Persists path)

include persists

theorem spared (spares : SparesFile path vault next) : next.Persists path := by
  obtain ⟨committed, samePath, reads⟩ := spares
  refine ⟨samePath.trans persists.file, committed ▸ persists.inWords, fun room => ?_⟩
  have saved := persists.saved (committed ▸ room)
  unfold Saved at saved ⊢
  rwa [committed, reads]

/-- Saving a ledger replaces the file and the ledger, or neither. -/
theorem accept {ledger : Ledger} (inWords : ledger.InWords) :
    (vault.accept ledger).1.Persists path := by
  unfold Vault.accept
  split
  · exact persists
  rw [persists.file]
  dsimp only
  rcases save_cases vault.disk path ledger with
    ⟨disk, saved, reads⟩ | ⟨disk, reason, failed, reads⟩
  · rw [saved]
    exact ⟨rfl, inWords, fun room =>
      Or.inr ⟨_, reads, (inWords.fitsWords room).ofText?_prettyText⟩⟩
  · rw [failed]
    exact persists.spared ⟨rfl, persists.file.symm, reads⟩

end Persists

end Vault

/-! ### Calls -/

theorem Mutation.inWords_edit {mutation : Mutation} {store : Store} {requestor : String}
    {now : Timestamp} {ledger next : Ledger} (fits : store.catalogue.hierarchies.FitsWords)
    (inWords : ledger.InWords) (edited : mutation.edit store requestor now ledger = .ok next) :
    next.InWords := by
  rw [← Edited.result_eq_ok (Mutation.apply_operation edited)]
  exact inWords.apply fits _

namespace Store

theorem persists_change {store : Store} {path : String} (persists : store.vault.Persists path)
    {edit : Ledger → Except StoreError Ledger}
    (keeps : ∀ ledger, edit store.vault.committed = .ok ledger → ledger.InWords)
    (requestor : String) (occasion : Occasion) (change : Change) :
    (store.change requestor occasion change edit).store.vault.Persists path := by
  obtain ⟨running, last, ended⟩ := store.change_cases requestor occasion change edit
  have idle : (store.vault.withTransactions running last).Persists path :=
    persists.spared ⟨rfl, rfl, rfl⟩
  rcases ended with ⟨reason, ended⟩ | ⟨ledger, edited, saves⟩
  · rw [ended]
    exact idle
  · have accepted := idle.accept (keeps ledger edited).prune
    rw [saves]
    split
    · next failed => rwa [failed] at accepted
    · next saved => rwa [saved] at accepted

/-- No call separates a store from its file. -/
theorem persists_turn {store : Store} {path : String} (persists : store.vault.Persists path)
    (fits : store.catalogue.hierarchies.FitsWords) (call : Call) :
    (store.turn call).after.vault.Persists path := by
  cases call with
  | query query => exact persists
  | mutation mutation requestor occasion =>
    show (mutation.perform store requestor occasion).store.vault.Persists path
    rcases mutation.perform_cases requestor occasion with ⟨reason, refused⟩ | changed
    · rw [refused]
      exact persists
    · rw [changed]
      exact persists_change persists
        (fun ledger edited => Mutation.inWords_edit fits persists.inWords edited) ..

end Store

/-! ### Runs -/

theorem Run.persists {path : String} {store final : Store} {turns : List Turn}
    (run : Run (Vault.SparesFile path) store turns final) (persists : store.vault.Persists path)
    (fits : store.catalogue.hierarchies.FitsWords) :
    (∀ turn ∈ turns, turn.after.vault.Persists path) ∧ final.vault.Persists path := by
  induction run with
  | nil store => exact ⟨fun _ member => absurd member List.not_mem_nil, persists⟩
  | @cons store final turns vault call spares _ inductionHypothesis =>
    have moved : ({ store with vault := vault } : Store).vault.Persists path :=
      persists.spared spares
    have next := Store.persists_turn moved fits call
    have sameFits := (Store.settings_turn { store with vault := vault } call).1.symm ▸ fits
    obtain ⟨later, last⟩ := inductionHypothesis next sameFits
    exact ⟨List.forall_mem_cons.2 ⟨next, later⟩, last⟩

/-- In every run of a store with a file, whatever else happens to its disk and whichever calls
fail, each call leaves the file absent and the ledger empty or the file with the committed ledger,
as long as the numbers of records last. From there on, a store with the same registries that is
opened over the file takes the place of the other. -/
theorem run_saved {disk : Disk} {path : String} {patience : Nat} {store final : Store}
    {turns : List Turn} (opened : Vault.ofFile disk path patience = .ok store.vault)
    (fits : store.catalogue.hierarchies.FitsWords)
    (run : Run (Vault.SparesFile path) store turns final) :
    (∀ turn ∈ turns, turn.after.vault.committed.lastRecord < Nat.pow 2 64 →
        turn.after.vault.Saved path) ∧
      (final.vault.committed.lastRecord < Nat.pow 2 64 → final.vault.Saved path ∧
        ∀ limit : Nat, ∃ vault, Vault.ofFile final.vault.disk path limit = .ok vault ∧
          ∀ reopened : Store, reopened.vault = vault → reopened.SharesRegistries final →
            reopened.Replaces final) := by
  obtain ⟨each, last⟩ := run.persists (.ofFile opened) fits
  refine ⟨fun turn member => (each turn member).saved, fun room => ?_⟩
  refine ⟨last.saved room, fun limit => ?_⟩
  refine ⟨_, (last.saved room).ofFile limit, fun reopened isOpened shares => ?_⟩
  exact Store.replaces_of_opened shares last.file isOpened

/-- The store of the library with a file that is not there yet. -/
def savedLibrary : Store :=
  { libraryStore with
    vault := { Vault.ofLedger Ledger.empty 1000 default with path := some "store.json" } }

/-- A run in which the second of three calls fails because something stands in the way of the
temporary file. -/
theorem run_saved_library :
    ∃ (turns : List Turn) (final : Store),
      Run (Vault.SparesFile "store.json") savedLibrary turns final ∧
        turns.map (fun turn => turn.commit?.map Commit.sequence) = [some 1, none, some 2] ∧
        (∀ turn ∈ turns, turn.after.vault.Saved "store.json") ∧
        final.vault.committed.records.entries.map Prod.fst = [1] ∧
        ∃ vault, Vault.ofFile final.vault.disk "store.json" 0 = .ok vault ∧
          Store.Replaces { final with vault := vault } final := by
  let occasion : Occasion := ⟨default, default⟩
  let read : BuiltPrivilege := ⟨libraryPrivilege "read", (libraryPrivilege "read").toDraft, rfl⟩
  let first := savedLibrary.turn (.mutation (.createRole "Clerks") "olga" occasion)
  let blocked : Vault := { first.after.vault with
    disk := first.after.vault.disk.place "store.json.tmp" .directory }
  let second := { first.after with vault := blocked }.turn
    (.mutation (.dropRole "clerks") "olga" occasion)
  let freed : Vault := { second.after.vault with disk := first.after.vault.disk }
  let third := { second.after with vault := freed }.turn
    (.mutation (.grant "clerks" read) "olga" occasion)
  have absent : savedLibrary.vault.Saved "store.json" := Or.inl ⟨by decide +kernel, rfl⟩
  have opened : Vault.ofFile default "store.json" 1000 = .ok savedLibrary.vault :=
    absent.ofFile 1000
  have fits : savedLibrary.catalogue.hierarchies.FitsWords := by
    unfold Hierarchies.FitsWords
    decide +kernel
  have spared : blocked.disk.read "store.json" = first.after.vault.disk.read "store.json" ∧
      freed.disk.read "store.json" = second.after.vault.disk.read "store.json" := by
    decide +kernel
  have run : Run (Vault.SparesFile "store.json") savedLibrary [first, second, third] third.after :=
    .cons savedLibrary.vault _ ⟨rfl, rfl, rfl⟩ <| .cons blocked _ ⟨rfl, rfl, spared.1⟩ <|
      .cons freed _ ⟨rfl, rfl, spared.2⟩ <| .nil _
  have facts : (∀ turn ∈ [first, second, third],
        turn.after.vault.committed.lastRecord < Nat.pow 2 64) ∧
      [first, second, third].map (fun turn => turn.commit?.map Commit.sequence) =
        [some 1, none, some 2] ∧
      third.after.vault.committed.records.entries.map Prod.fst = [1] := by
    decide +kernel
  obtain ⟨room, commits, numbers⟩ := facts
  obtain ⟨each, last⟩ := run_saved opened fits run
  obtain ⟨-, reopens⟩ := last (room third (by simp))
  obtain ⟨vault, reopened, replaces⟩ := reopens 0
  exact ⟨[first, second, third], third.after, run, commits,
    fun turn member => each turn member (room turn member), numbers, vault, reopened,
    replaces _ rfl (.withVault third.after vault)⟩

end Entitlement
