/-
This file proves that what a vault does is not up to the texts that its disk holds. Paths lead
through directories, and saving asks only whether there is a file in a place or a directory. So the
outline of a disk, on which all files are empty, says whether saving succeeds and how it fails, and
the outline of a vault, which has no times of rows either, says the same of its transactions. Two
vaults with the same outline have the same one after the same steps.
-/

import Entitlement.Proofs.Saving
import Entitlement.Proofs.Undated

namespace Entitlement

/-! ### Disks with empty files -/

/-- The entry without the text of a file. -/
def DiskEntry.blank : DiskEntry → DiskEntry
  | file _ => file ""
  | directory => directory

namespace Disk

/-- The disk on which all files are empty. -/
def outline (disk : Disk) : Disk :=
  ⟨disk.entries.mapValues DiskEntry.blank⟩

variable (disk : Disk)

theorem entry?_outline (location : Location) :
    disk.outline.entry? location = (disk.entry? location).map DiskEntry.blank := by
  unfold entry?
  split
  · rfl
  · exact OrderedMap.get?_mapValues ..

theorem follow_outline : disk.outline.follow = disk.follow := by
  funext location part
  unfold follow
  rw [entry?_outline]
  rcases disk.entry? location with _ | (_ | _) <;> rfl

theorem locate_outline (path : String) : disk.outline.locate path = disk.locate path := by
  unfold locate
  rw [follow_outline]

theorem locateTarget_outline (path : String) :
    disk.outline.locateTarget path = disk.locateTarget path := by
  unfold locateTarget
  rw [follow_outline]

theorem read_outline (path : String) :
    disk.outline.read path = (disk.read path).map fun _ => "" := by
  unfold read
  rw [locate_outline, map_bind_eq]
  refine bind_congr fun location => ?_
  rw [entry?_outline]
  rcases disk.entry? location with _ | (_ | _) <;> rfl

theorem outline_write (path content : String) :
    (disk.write path content).map outline = disk.outline.write path "" := by
  unfold write
  rw [locate_outline, map_bind_eq]
  refine bind_congr fun location => ?_
  have wrote : outline ⟨disk.entries.insert location (.file content)⟩ =
      ⟨disk.outline.entries.insert location (.file "")⟩ :=
    congrArg Disk.mk (OrderedMap.mapValues_insert ..)
  rw [entry?_outline]
  rcases disk.entry? location with _ | (_ | _)
  · exact congrArg Except.ok wrote
  · exact congrArg Except.ok wrote
  · rfl

theorem outline_rename (path newPath : String) :
    (disk.rename path newPath).map outline = disk.outline.rename path newPath := by
  unfold rename
  rw [read_outline, locate_outline, locateTarget_outline, map_bind_eq, bind_map_eq]
  refine bind_congr fun content => ?_
  rw [map_bind_eq]
  refine bind_congr fun location => ?_
  rw [map_bind_eq]
  refine bind_congr fun target => ?_
  have moved : outline ⟨(disk.entries.erase location).insert target (.file content)⟩ =
      ⟨(disk.outline.entries.erase location).insert target (.file "")⟩ := by
    refine congrArg Disk.mk ?_
    rw [OrderedMap.mapValues_insert, OrderedMap.mapValues_erase]
    rfl
  rw [entry?_outline]
  rcases disk.entry? target with _ | (_ | _)
  · exact congrArg Except.ok moved
  · exact congrArg Except.ok moved
  · rfl

end Disk

/-! ### Vaults without texts and times -/

def Transaction.undated : Transaction → Transaction
  | reading view => reading view.undated
  | writing draft => writing draft.undated

namespace Vault

/-- The vault with empty files and with one time for all rows. -/
def outline (vault : Vault) : Vault :=
  { vault with
    committed := vault.committed.undated
    disk := vault.disk.outline
    running := vault.running.mapValues Transaction.undated }

variable (vault : Vault)

theorem isIdle_outline : vault.outline.isIdle = vault.isIdle := by
  show (vault.running.entries.map _).isEmpty = vault.running.entries.isEmpty
  exact List.isEmpty_map

theorem hasWriter_outline : vault.outline.hasWriter = vault.hasWriter := by
  show (vault.running.entries.map _).any _ = vault.running.entries.any _
  rw [List.any_map]
  refine congrArg (List.any vault.running.entries) (funext fun entry => ?_)
  obtain ⟨number, _ | _⟩ := entry <;> rfl

theorem outline_start (transaction : Transaction) :
    (vault.start transaction).2.outline = (vault.outline.start transaction.undated).2 := by
  unfold start outline
  simp only [OrderedMap.mapValues_insert]

theorem outline_discard (number : Nat) :
    (vault.discard number).outline = vault.outline.discard number := by
  unfold discard outline
  simp only [OrderedMap.mapValues_erase]

theorem outline_edit (number : Nat) (draft : Ledger) :
    (vault.edit number draft).outline = vault.outline.edit number draft.undated := by
  have found : vault.outline.running.get? number =
      (vault.running.get? number).map Transaction.undated := OrderedMap.get?_mapValues ..
  unfold edit
  rw [found]
  rcases vault.running.get? number with _ | (_ | _)
  · rfl
  · rfl
  · unfold outline
    simp only [OrderedMap.mapValues_insert]
    rfl

theorem beginWrite_outline :
    vault.outline.beginWrite = vault.beginWrite.map fun begun => (begun.1, begun.2.outline) := by
  unfold beginWrite
  rw [isIdle_outline]
  split
  · have started := vault.outline_start (.writing vault.committed)
    exact congrArg Except.ok (congrArg (Prod.mk _) started.symm)
  · rfl

theorem beginRead_outline :
    vault.outline.beginRead = vault.beginRead.map fun begun => (begun.1, begun.2.outline) := by
  unfold beginRead
  rw [hasWriter_outline]
  split
  · rfl
  · have started := vault.outline_start (.reading vault.committed)
    exact congrArg Except.ok (congrArg (Prod.mk _) started.symm)

/-! ### Committing -/

theorem save_of_outline_eq {disk other : Disk} (same : disk.outline = other.outline)
    (path : String) (ledger twin : Ledger) :
    (save disk path ledger).1.outline = (save other path twin).1.outline ∧
      (save disk path ledger).2 = (save other path twin).2 := by
  have writes : (disk.write (temporaryPath path) ledger.prettyText).map Disk.outline =
      (other.write (temporaryPath path) twin.prettyText).map Disk.outline := by
    rw [Disk.outline_write, Disk.outline_write, same]
  unfold save
  dsimp only
  rcases cases_of_map_eq_map writes with ⟨reason, failed, twinFailed⟩ |
    ⟨written, twinWritten, wrote, twinWrote, sameWritten⟩
  · rw [failed, twinFailed]
    exact ⟨same, rfl⟩
  · have moves : (written.rename (temporaryPath path) path).map Disk.outline =
        (twinWritten.rename (temporaryPath path) path).map Disk.outline := by
      rw [Disk.outline_rename, Disk.outline_rename, sameWritten]
    rw [wrote, twinWrote]
    dsimp only
    rcases cases_of_map_eq_map moves with ⟨reason, failed, twinFailed⟩ |
      ⟨moved, twinMoved, renamed, twinRenamed, sameMoved⟩
    · rw [failed, twinFailed]
      exact ⟨sameWritten, rfl⟩
    · rw [renamed, twinRenamed]
      exact ⟨sameMoved, rfl⟩

variable {vault} {other : Vault} (same : vault.outline = other.outline)

include same

theorem accept_of_outline_eq {ledger twin : Ledger} (ledgers : ledger.undated = twin.undated) :
    (vault.accept ledger).1.outline = (other.accept twin).1.outline ∧
      (vault.accept ledger).2 = (other.accept twin).2 := by
  have refusal : vault.refusal = other.refusal :=
    show vault.outline.refusal = other.outline.refusal by rw [same]
  have path : vault.path = other.path := show vault.outline.path = other.outline.path by rw [same]
  have disk : vault.disk.outline = other.disk.outline := congrArg Vault.disk same
  -- The vault after the commit is the outline with another ledger and another disk.
  have replaced : ∀ (next twinNext : Ledger) (disk twinDisk : Disk),
      next.undated = twinNext.undated → disk.outline = twinDisk.outline →
      { vault with
        committed := next, path := other.path, disk := disk, refusal := other.refusal }.outline =
        { other with committed := twinNext, disk := twinDisk }.outline := by
    intro next twinNext disk twinDisk sameLedger sameDisk
    show { vault.outline with
        committed := next.undated, path := other.path, disk := disk.outline,
        refusal := other.refusal } =
      { other.outline with committed := twinNext.undated, disk := twinDisk.outline }
    rw [same, sameLedger, sameDisk]
    rfl
  have committed : vault.committed.undated = other.committed.undated :=
    congrArg Vault.committed same
  unfold accept
  rw [refusal, path]
  split
  · exact ⟨same, rfl⟩
  split
  · exact ⟨replaced _ _ _ _ ledgers disk, rfl⟩
  next path _ =>
  obtain ⟨saved, ended⟩ := save_of_outline_eq disk path ledger twin
  generalize save vault.disk path ledger = result at saved ended
  generalize save other.disk path twin = twinResult at saved ended
  obtain ⟨next, failure⟩ := result
  obtain ⟨twinNext, twinFailure⟩ := twinResult
  obtain rfl : failure = twinFailure := ended
  cases failure with
  | some reason => exact ⟨replaced _ _ _ _ committed saved, rfl⟩
  | none => exact ⟨replaced _ _ _ _ ledgers saved, rfl⟩

theorem commit_of_outline_eq (number : Nat) :
    (vault.commit number).1.outline = (other.commit number).1.outline ∧
      (vault.commit number).2 = (other.commit number).2 := by
  have running : (vault.running.get? number).map Transaction.undated =
      (other.running.get? number).map Transaction.undated := by
    rw [← OrderedMap.get?_mapValues, ← OrderedMap.get?_mapValues]
    exact congrArg (fun next : Vault => next.running.get? number) same
  have discarded : (vault.discard number).outline = (other.discard number).outline := by
    rw [outline_discard, outline_discard, same]
  unfold commit
  cases found : vault.running.get? number with
  | none =>
    cases twinFound : other.running.get? number with
    | none => exact ⟨same, rfl⟩
    | some => rw [found, twinFound] at running; cases running
  | some transaction =>
    cases twinFound : other.running.get? number with
    | none => rw [found, twinFound] at running; cases running
    | some twin =>
      rw [found, twinFound] at running
      have alike : transaction.undated = twin.undated := Option.some.inj running
      cases transaction with
      | reading view =>
        cases twin with
        | reading => exact ⟨same, rfl⟩
        | writing => cases alike
      | writing draft =>
        cases twin with
        | reading => cases alike
        | writing twinDraft =>
          exact accept_of_outline_eq discarded (Transaction.writing.inj alike)

end Vault

end Entitlement
