/-
This file proves that the transactions of a vault are isolated. They may begin, be worked on and end
in any order, by a commit that succeeds or fails or by being left, and the disk may change at any
time. What each of them shows, and which ledger is committed, is then what the history of the vault
says; and no draft that was not committed has a part in what others see.

The vault knows nothing of its history. It excludes others while a writing transaction runs and
gives each transaction a ledger of its own, and the invariant `Vault.Sound` says that this is
enough. Every request keeps it, whatever comes of the request.
-/

import Entitlement.Proofs.Transactions

namespace Entitlement

namespace Vault

variable {vault : Vault}

/-! ### The invariant -/

/-- A vault that is as its history says. -/
structure Sound (first : Ledger) (past : List Happening) (vault : Vault) : Prop where
  committed : vault.committed = Happening.committedAfter first past
  runs : ∀ number, (vault.running.get? number).map Transaction.isWriting =
    Happening.runs? number past
  shows : ∀ number transaction, vault.running.get? number = some transaction →
    transaction.ledger = Happening.shownAfter first number past
  /-- Nobody edits what a reading transaction shows. -/
  reads : ∀ number view, vault.running.get? number = some (.reading view) →
    view = Happening.committedAfter first (Happening.before number past)
  alone : ∀ writer draft other transaction, vault.running.get? writer = some (.writing draft) →
    vault.running.get? other = some transaction → other = writer
  fresh : (past.filterMap Happening.begun?).Pairwise (· > ·)
  bounded : ∀ number ∈ past.filterMap Happening.begun?, number ≤ vault.lastTransaction

namespace Sound

variable {first : Ledger} {past : List Happening} (sound : Sound first past vault)

theorem start (idle : vault.running = OrderedMap.empty) : Sound vault.committed [] vault := by
  have none : ∀ number, vault.running.get? number = none := by simp [idle]
  exact {
    committed := rfl
    runs := fun number => by rw [none]; rfl
    shows := fun number transaction found => by rw [none] at found; cases found
    reads := fun number view found => by rw [none] at found; cases found
    alone := fun writer draft other transaction found => by rw [none] at found; cases found
    fresh := .nil
    bounded := fun number member => absurd member List.not_mem_nil }

include sound

/-- A transaction begins with the committed ledger while none runs that excludes it. -/
theorem begins (transaction : Transaction) (shows : transaction.ledger = vault.committed)
    (excludes : ∀ number other, vault.running.get? number = some other →
      transaction.isWriting = false ∧ other.isWriting = false) :
    Sound first (.began (vault.lastTransaction + 1) transaction.isWriting :: past)
      (vault.opened transaction) := by
  have running : ∀ number, (vault.opened transaction).running.get? number =
      if vault.lastTransaction + 1 = number then some transaction
      else vault.running.get? number := fun number => OrderedMap.get?_insert_if ..
  constructor
  case committed => exact sound.committed
  case runs =>
    intro number
    rw [running, Happening.runs?]
    split
    · rfl
    · exact sound.runs number
  case shows =>
    intro number other found
    rw [running] at found
    rw [Happening.shownAfter]
    split at found
    · next same =>
      rw [if_pos same, ← sound.committed, ← shows, Option.some.inj found]
    · next apart =>
      rw [if_neg apart]
      exact sound.shows number other found
  case reads =>
    intro number view found
    rw [running] at found
    rw [Happening.before]
    split at found
    · next same =>
      rw [if_pos same, ← sound.committed, ← shows, Option.some.inj found]
      rfl
    · next apart =>
      rw [if_neg apart]
      exact sound.reads number view found
  case alone =>
    intro writer draft other third isWriter isOther
    rw [running] at isWriter isOther
    split at isWriter
    · next same =>
      split at isOther
      · next otherSame => exact otherSame.symm.trans same
      · have reading := (excludes other third isOther).1
        rw [Option.some.inj isWriter] at reading
        cases reading
    · split at isOther
      · have reading := (excludes writer _ isWriter).2
        cases reading
      · exact sound.alone writer draft other third isWriter isOther
  case fresh =>
    refine List.pairwise_cons.2 ⟨fun number member => ?_, sound.fresh⟩
    exact Nat.lt_succ_of_le (sound.bounded number member)
  case bounded =>
    intro number member
    rcases List.mem_cons.1 member with rfl | earlier
    · exact Nat.le_refl _
    · exact Nat.le_succ_of_le (sound.bounded number earlier)

theorem edits {number : Nat} {draft : Ledger} (next : Ledger)
    (isRunning : vault.running.get? number = some (.writing draft)) :
    Sound first (.edited number next :: past)
      { vault with running := vault.running.insert number (.writing next) } := by
  have running : ∀ other, (vault.running.insert number (.writing next)).get? other =
      if number = other then some (.writing next) else vault.running.get? other :=
    fun other => OrderedMap.get?_insert_if ..
  constructor
  case committed => exact sound.committed
  case runs =>
    intro other
    have earlier := sound.runs other
    rw [running]
    split
    · next same =>
      rw [← same, isRunning] at earlier
      rw [← same]
      exact earlier
    · exact earlier
  case shows =>
    intro other transaction found
    rw [running] at found
    rw [Happening.shownAfter]
    split at found
    · next same => rw [if_pos same, ← Option.some.inj found]; rfl
    · next apart => rw [if_neg apart]; exact sound.shows other transaction found
  case reads =>
    intro other view found
    rw [running] at found
    split at found
    · cases found
    · exact sound.reads other view found
  case alone =>
    intro writer _ other third isWriter isOther
    -- The edited transaction was the only one before.
    have only : ∀ other transaction, (vault.running.insert number (.writing next)).get? other =
        some transaction → other = number := by
      intro other transaction found
      rw [running] at found
      split at found
      · next same => exact same.symm
      · exact sound.alone number draft other transaction isRunning found
    rw [only writer _ isWriter, only other third isOther]
  case fresh => exact sound.fresh
  case bounded => exact sound.bounded

theorem ends {happening : Happening} {number : Nat} (ended : happening.ended? = some number)
    {next : Vault} (running : next.running = vault.running.erase number)
    (last : next.lastTransaction = vault.lastTransaction)
    (committed : next.committed = Happening.committedAfter first (happening :: past)) :
    Sound first (happening :: past) next := by
  have earlier : ∀ other transaction, next.running.get? other = some transaction →
      vault.running.get? other = some transaction := by
    intro other transaction found
    rw [running] at found
    exact (OrderedMap.get?_erase_eq_some.1 found).2
  have quiet : happening.begun? = none ∧ ∀ other,
      Happening.runs? other (happening :: past) =
          (if number = other then none else Happening.runs? other past) ∧
        Happening.shownAfter first other (happening :: past) =
          Happening.shownAfter first other past ∧
        Happening.before other (happening :: past) = Happening.before other past := by
    cases happening with
    | committed | failed | left =>
      obtain rfl := Option.some.inj ended
      exact ⟨rfl, fun other => ⟨by simp [Happening.runs?, Happening.ended?], rfl, rfl⟩⟩
    | _ => cases ended
  obtain ⟨silent, reading⟩ := quiet
  have begun : (happening :: past).filterMap Happening.begun? = past.filterMap Happening.begun? :=
    List.filterMap_cons_none silent
  constructor
  case committed => exact committed
  case runs =>
    intro other
    rw [(reading other).1, running, OrderedMap.get?_erase_if]
    split
    · rfl
    · exact sound.runs other
  case shows =>
    intro other transaction found
    rw [(reading other).2.1]
    exact sound.shows other transaction (earlier _ _ found)
  case reads =>
    intro other view found
    rw [(reading other).2.2]
    exact sound.reads other view (earlier _ _ found)
  case alone =>
    intro writer draft other third isWriter isOther
    exact sound.alone writer draft other third (earlier _ _ isWriter) (earlier _ _ isOther)
  case fresh =>
    rw [begun]
    exact sound.fresh
  case bounded =>
    rw [begun, last]
    exact sound.bounded

/-- Every request keeps the invariant. -/
theorem serve (request : Request) :
    Sound first ((vault.serve request).1 :: past) (vault.serve request).2 := by
  have result := vault.served request
  generalize vault.serve request = served at result
  cases result with
  | beganWriting idle =>
    refine sound.begins (.writing vault.committed) rfl fun number other found => ?_
    rw [isIdle_iff.1 idle] at found
    cases found
  | beganReading free =>
    refine sound.begins (.reading vault.committed) rfl fun number other found => ?_
    refine ⟨rfl, ?_⟩
    cases other with
    | reading => rfl
    | writing draft => rw [hasWriter_iff.2 ⟨number, draft, found⟩] at free; cases free
  | refused reason =>
    exact ⟨sound.committed, sound.runs, sound.shows, sound.reads, sound.alone, sound.fresh,
      sound.bounded⟩
  | edited next isRunning => exact sound.edits next isRunning
  | committed isRunning running last saved =>
    exact sound.ends rfl running last (saved.trans (sound.shows _ _ isRunning))
  | failed reason isRunning running last kept =>
    exact sound.ends rfl running last (kept.trans sound.committed)
  | left isRunning => exact sound.ends rfl rfl rfl sound.committed
  | aside disk refusal =>
    exact ⟨sound.committed, sound.runs, sound.shows, sound.reads, sound.alone, sound.fresh,
      sound.bounded⟩

end Sound

/-! ### Drafts that were not committed -/

/-- The drafts of a transaction that was not committed have a part in nothing but what that
transaction shows. -/
theorem Happening.after_forget (first : Ledger) {number : Nat} {past : List Happening}
    (lost : .committed number ∉ past) :
    committedAfter first (forget number past) = committedAfter first past ∧
      ∀ other ≠ number,
        shownAfter first other (forget number past) = shownAfter first other past := by
  induction past with
  | nil => exact ⟨rfl, fun _ _ => rfl⟩
  | cons happening past inductionHypothesis =>
    obtain ⟨committed, shown⟩ := inductionHypothesis fun member =>
      lost (List.mem_cons_of_mem _ member)
    cases happening with
    | began other writes =>
      refine ⟨committed, fun viewer apart => ?_⟩
      show (if other = viewer then committedAfter first (forget number past)
        else shownAfter first viewer (forget number past)) = _
      rw [committed, shown viewer apart]
      rfl
    | edited other draft =>
      by_cases same : other = number
      · subst same
        have forgotten : forget other (.edited other draft :: past) = forget other past :=
          List.filter_cons_of_neg (by simp)
        rw [forgotten]
        refine ⟨committed, fun viewer apart => ?_⟩
        rw [shown viewer apart, shownAfter, if_neg (Ne.symm apart)]
      · have kept : forget number (.edited other draft :: past) =
            .edited other draft :: forget number past :=
          List.filter_cons_of_pos (by simpa using same)
        rw [kept]
        refine ⟨committed, fun viewer apart => ?_⟩
        rw [shownAfter, shownAfter, shown viewer apart]
    | committed other =>
      have apart : other ≠ number := fun same => lost (same ▸ List.mem_cons_self)
      exact ⟨shown other apart, shown⟩
    | refused | failed | left | aside => exact ⟨committed, shown⟩

/-! ### Whole courses -/

/-- A vault and what has happened in it, the latest first. -/
structure Chronicle where
  vault : Vault
  past : List Happening

def Chronicle.serve (chronicle : Chronicle) (request : Request) : Chronicle :=
  ⟨(chronicle.vault.serve request).2, (chronicle.vault.serve request).1 :: chronicle.past⟩

/-- The vault after several requests, with its history. -/
def chronicle (start : Vault) (requests : List Request) : Chronicle :=
  requests.foldl Chronicle.serve ⟨start, []⟩

theorem sound_chronicle {start : Vault} (idle : start.running = OrderedMap.empty)
    (requests : List Request) :
    Sound start.committed (start.chronicle requests).past (start.chronicle requests).vault := by
  let motive (chronicle : Chronicle) := Sound start.committed chronicle.past chronicle.vault
  exact List.foldlRecOn (motive := motive) requests Chronicle.serve (.start idle)
    fun _ sound request _ => sound.serve request

/-- A vault whose transactions are isolated from each other, as its history tells. -/
structure Isolated (first : Ledger) (past : List Happening) (vault : Vault) : Prop where
  /-- Next to a writing transaction no other runs. -/
  alone : ∀ writer other writes, Happening.runs? writer past = some true →
    Happening.runs? other past = some writes → other = writer
  /-- Next to a running transaction no writing one begins, and the try changes nothing. -/
  refusesWrite : (∃ number writes, Happening.runs? number past = some writes) →
    vault.serve .beginWrite = (.refused (.unavailable
      s!"write transaction not available after {vault.patience}ms"), vault)
  /-- Next to a writing transaction no reading one begins, and the try changes nothing. -/
  refusesRead : (∃ number, Happening.runs? number past = some true) →
    vault.serve .beginRead = (.refused (.unavailable
      s!"read transaction not available after {vault.patience}ms"), vault)
  /-- Nothing else stands in the way of a writing transaction. -/
  beginsWrite : (∀ number, Happening.runs? number past = none) →
    ∃ number next, vault.serve .beginWrite = (.began number true, next) ∧
      next.look? number = some vault.committed
  /-- Nothing else stands in the way of a reading transaction. -/
  beginsRead : (∀ number, Happening.runs? number past ≠ some true) →
    ∃ number next, vault.serve .beginRead = (.began number false, next) ∧
      next.look? number = some vault.committed
  /-- No two transactions go by one number. -/
  fresh : (past.filterMap Happening.begun?).Nodup
  committed : vault.committed = Happening.committedAfter first past
  /-- Just the running transactions show a ledger. -/
  shows : ∀ number, vault.look? number =
    (Happening.runs? number past).map fun _ => Happening.shownAfter first number past
  reads : ∀ number, Happening.runs? number past = some false →
    vault.look? number = some (Happening.committedAfter first (Happening.before number past))
  /-- The drafts of a transaction that was not committed are of no account to all others. -/
  lost : ∀ number, .committed number ∉ past →
    vault.committed = Happening.committedAfter first (Happening.forget number past) ∧
      ∀ other ≠ number, vault.look? other = (Happening.runs? other past).map fun _ =>
        Happening.shownAfter first other (Happening.forget number past)

/-- A running transaction is found in the vault, of the kind that the history tells. -/
theorem Sound.exists_running {first : Ledger} {past : List Happening}
    (sound : Sound first past vault) {number : Nat} {writes : Bool}
    (runs : Happening.runs? number past = some writes) :
    ∃ transaction, vault.running.get? number = some transaction ∧
      transaction.isWriting = writes := by
  rw [← sound.runs number] at runs
  exact Option.map_eq_some_iff.1 runs

theorem Sound.look?_eq {first : Ledger} {past : List Happening} (sound : Sound first past vault)
    (number : Nat) : vault.look? number =
      (Happening.runs? number past).map fun _ => Happening.shownAfter first number past := by
  rw [← sound.runs number, look?]
  cases found : vault.running.get? number with
  | none => rfl
  | some transaction => exact congrArg some (sound.shows number transaction found)

theorem Sound.isolated {first : Ledger} {past : List Happening} (sound : Sound first past vault) :
    Isolated first past vault := by
  have writer : ∀ {number}, Happening.runs? number past = some true →
      ∃ draft, vault.running.get? number = some (.writing draft) := by
    intro number runs
    obtain ⟨_ | draft, found, kind⟩ := sound.exists_running runs
    · cases kind
    · exact ⟨draft, found⟩
  constructor
  case alone =>
    intro number other writes runs otherRuns
    obtain ⟨draft, found⟩ := writer runs
    obtain ⟨transaction, isOther, -⟩ := sound.exists_running otherRuns
    exact sound.alone number draft other transaction found isOther
  case refusesWrite =>
    rintro ⟨number, writes, runs⟩
    obtain ⟨transaction, found, -⟩ := sound.exists_running runs
    have notIdle : vault.isIdle = false := by
      refine Bool.eq_false_iff.2 fun idle => ?_
      rw [isIdle_iff.1 idle] at found
      cases found
    rw [Vault.serve, beginWrite, notIdle]
    rfl
  case refusesRead =>
    rintro ⟨number, runs⟩
    obtain ⟨draft, found⟩ := writer runs
    rw [Vault.serve, beginRead, hasWriter_iff.2 ⟨number, draft, found⟩]
    rfl
  case beginsWrite =>
    intro idle
    have isIdle : vault.isIdle = true := isIdle_iff.2 fun number =>
      Option.map_eq_none_iff.1 ((sound.runs number).trans (idle number))
    refine ⟨vault.lastTransaction + 1, vault.opened (.writing vault.committed), ?_, ?_⟩
    · rw [Vault.serve, beginWrite, isIdle]
      rfl
    · exact congrArg (Option.map _) (OrderedMap.get?_insert_self ..)
  case beginsRead =>
    intro free
    have isFree : vault.hasWriter = false := by
      refine Bool.eq_false_iff.2 fun busy => ?_
      obtain ⟨number, draft, found⟩ := hasWriter_iff.1 busy
      refine free number ?_
      rw [← sound.runs number, found]
      rfl
    refine ⟨vault.lastTransaction + 1, vault.opened (.reading vault.committed), ?_, ?_⟩
    · rw [Vault.serve, beginRead, isFree]
      rfl
    · exact congrArg (Option.map _) (OrderedMap.get?_insert_self ..)
  case fresh => exact sound.fresh.imp Nat.ne_of_gt
  case committed => exact sound.committed
  case shows => exact sound.look?_eq
  case reads =>
    intro number runs
    obtain ⟨view | _, found, kind⟩ := sound.exists_running runs
    · rw [look?, found, ← sound.reads number view found]
      rfl
    · cases kind
  case lost =>
    intro number lost
    obtain ⟨committed, shown⟩ := Happening.after_forget first lost
    refine ⟨sound.committed.trans committed.symm, fun other apart => ?_⟩
    rw [shown other apart]
    exact sound.look?_eq other

/-- Whatever a vault is asked to do after it was opened, and whatever comes of it, its transactions
are isolated from each other. -/
theorem transactions_isolated (start : Vault) (idle : start.running = OrderedMap.empty)
    (requests : List Request) :
    Isolated start.committed (start.chronicle requests).past (start.chronicle requests).vault :=
  (sound_chronicle idle requests).isolated

/-- A vault with a file that it cannot write at first, since there is a directory in the place of the
temporary file. -/
def blockedVault : Vault :=
  { ofLedger Ledger.empty 1000 (Disk.empty.place "ledger.json.tmp" .directory) with
    path := some "ledger.json" }

/-- The first commit fails, and its draft is lost. A reader keeps a writer waiting; the second commit
succeeds once the directory is gone, and what it saved is what is read after it. -/
theorem transactions_isolated_on_file :
    ∃ (lost saved : Ledger) (requests : List Request), lost ≠ saved ∧
      (blockedVault.chronicle requests).past.reverse =
        [.began 1 true, .edited 1 lost,
          .refused (.unavailable "read transaction not available after 1000ms"),
          .failed 1 (.unavailable "cannot write ledger.json.tmp: Is a directory (os error 21)"),
          .began 2 false,
          .refused (.unavailable "write transaction not available after 1000ms"),
          .left 2, .began 3 true, .edited 3 saved, .aside, .committed 3, .began 4 false] ∧
      (blockedVault.chronicle requests).vault.look? 4 = some saved ∧
      Isolated Ledger.empty (blockedVault.chronicle requests).past
        (blockedVault.chronicle requests).vault := by
  let lost : Ledger := { Ledger.empty with lastRecord := 1 }
  let saved : Ledger := { Ledger.empty with lastRecord := 2 }
  let requests : List Request := [.beginWrite, .edit 1 lost, .beginRead, .commit 1, .beginRead,
    .beginWrite, .leave 2, .beginWrite, .edit 3 saved, .befall Disk.empty none, .commit 3,
    .beginRead]
  have isolated := transactions_isolated blockedVault rfl requests
  refine ⟨lost, saved, requests, ?_, ?_, ?_, isolated⟩
  · decide
  · decide +kernel
  · rw [isolated.shows]
    decide +kernel

end Vault

end Entitlement
