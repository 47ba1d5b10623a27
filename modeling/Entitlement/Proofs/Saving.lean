/-
This file proves what a saved file comes to. A ledger is written under a temporary path first, and
that leaves the file in its place as it was, wherever the two paths lead: both are followed through
the same directories, and only the last name differs. Moving the temporary file then puts the text
in the place of the file. So whichever step fails, the file is still the old one.
-/

import Entitlement.Proofs.Failure
import Entitlement.Proofs.Ordered
import Entitlement.Vault

namespace Entitlement

/-! ### Following paths on two disks -/

namespace Disk

variable {disk other : Disk}

/-- All directories of a disk are directories of another. -/
def KeepsDirectories (disk other : Disk) : Prop :=
  ∀ location, disk.entry? location = some .directory → other.entry? location = some .directory

theorem follow_eq_ok {location next : Location} {part : String} :
    disk.follow location part = .ok next ↔
      disk.entry? location = some .directory ∧ location.enter part = .ok next := by
  unfold follow
  split <;> simp_all

/-- A path that leads through the directories of a disk leads to the same place on a disk that has
them all. -/
theorem KeepsDirectories.follow (keeps : disk.KeepsDirectories other) {location next : Location}
    {part : String} (followed : disk.follow location part = .ok next) :
    other.follow location part = .ok next := by
  rw [follow_eq_ok] at followed ⊢
  exact ⟨keeps _ followed.1, followed.2⟩

theorem KeepsDirectories.foldlM_follow (keeps : disk.KeepsDirectories other) {parts : List String}
    {location next : Location} (followed : parts.foldlM disk.follow location = .ok next) :
    parts.foldlM other.follow location = .ok next := by
  induction parts generalizing location with
  | nil => exact followed
  | cons part rest inductionHypothesis =>
    rw [List.foldlM_cons, bind_eq_ok] at followed ⊢
    obtain ⟨reached, first, followed⟩ := followed
    exact ⟨reached, keeps.follow first, inductionHypothesis followed⟩

/-! ### Entries after each operation -/

/-- What stands in a place after a file has been put somewhere that is not a directory. -/
theorem entry?_insert {place : Location} (apart : disk.entry? place ≠ some .directory)
    (content : String) (location : Location) :
    entry? ⟨disk.entries.insert place (.file content)⟩ location =
      if place = location then some (.file content) else disk.entry? location := by
  unfold entry?
  by_cases surrounding : location.isSurrounding = true
  · have other : place ≠ location := by
      rintro rfl
      exact apart (if_pos surrounding)
    rw [if_pos surrounding, if_pos surrounding, if_neg other]
  · rw [if_neg surrounding, if_neg surrounding, OrderedMap.get?_insert]
    simp only [Std.LawfulEqOrd.compare_eq_iff_eq]

theorem keepsDirectories_insert {place : Location} (apart : disk.entry? place ≠ some .directory)
    (content : String) :
    disk.KeepsDirectories ⟨disk.entries.insert place (.file content)⟩ := by
  intro location isDirectory
  have other : place ≠ location := by
    rintro rfl
    exact apart isDirectory
  rw [entry?_insert apart, if_neg other, isDirectory]

/-- What stands in a place after a file has been taken away. -/
theorem entry?_erase {place : Location} {content : String}
    (isFile : disk.entry? place = some (.file content)) (location : Location) :
    entry? ⟨disk.entries.erase place⟩ location =
      if place = location then none else disk.entry? location := by
  unfold entry? at isFile ⊢
  by_cases surrounding : location.isSurrounding = true
  · have other : place ≠ location := by
      rintro rfl
      rw [if_pos surrounding] at isFile
      cases isFile
    rw [if_pos surrounding, if_pos surrounding, if_neg other]
  · rw [if_neg surrounding, if_neg surrounding, OrderedMap.get?_erase]
    simp only [Std.LawfulEqOrd.compare_eq_iff_eq]

theorem keepsDirectories_erase {place : Location} {content : String}
    (isFile : disk.entry? place = some (.file content)) :
    disk.KeepsDirectories ⟨disk.entries.erase place⟩ := by
  intro location isDirectory
  have other : place ≠ location := by
    rintro rfl
    rw [isFile] at isDirectory
    cases isDirectory
  rw [entry?_erase isFile, if_neg other, isDirectory]

theorem KeepsDirectories.trans {first second third : Disk} (left : first.KeepsDirectories second)
    (right : second.KeepsDirectories third) : first.KeepsDirectories third :=
  fun location isDirectory => right location (left location isDirectory)

/-! ### Reading, writing and renaming -/

variable {path content : String}

/-- Where a path leads whose last part is followed from a directory. -/
theorem locate_eq_enter {front : List String} {last : String} {directory : Location}
    (split : Location.parts path = .ok (front ++ [last]))
    (followed : front.foldlM disk.follow (Location.start path) = .ok directory)
    (isDirectory : disk.entry? directory = some .directory) :
    disk.locate path = directory.enter last := by
  have ends : [last].foldlM disk.follow directory = directory.enter last := by
    rw [List.foldlM_cons, follow, isDirectory]
    cases directory.enter last <;> rfl
  rw [locate, split]
  show (front ++ [last]).foldlM disk.follow (Location.start path) = directory.enter last
  rw [List.foldlM_append, followed]
  exact ends

theorem KeepsDirectories.locate (keeps : disk.KeepsDirectories other) {location : Location}
    (located : disk.locate path = .ok location) : other.locate path = .ok location := by
  obtain ⟨parts, split, followed⟩ := bind_eq_ok.1 located
  exact bind_eq_ok.2 ⟨parts, split, keeps.foldlM_follow followed⟩

theorem read_eq_ok :
    disk.read path = .ok content ↔
      ∃ location, disk.locate path = .ok location ∧
        disk.entry? location = some (.file content) := by
  rw [read, bind_eq_ok]
  refine exists_congr fun location => and_congr_right fun _ => ?_
  split <;> simp_all [pure_eq_ok]

/-- A path reads the same on two disks if it leads to the same place and the same is there. -/
theorem read_congr (sameWay : disk.locate path = other.locate path)
    (sameEntry : ∀ location, other.locate path = .ok location →
      disk.entry? location = other.entry? location) : disk.read path = other.read path := by
  rw [read, read, sameWay]
  cases located : other.locate path with
  | error reason => rfl
  | ok location =>
    dsimp only [bind, Except.bind]
    rw [sameEntry location located]

theorem write_eq_ok {written : Disk} :
    disk.write path content = .ok written ↔
      ∃ location, disk.locate path = .ok location ∧ disk.entry? location ≠ some .directory ∧
        written = ⟨disk.entries.insert location (.file content)⟩ := by
  rw [write, bind_eq_ok]
  refine exists_congr fun location => and_congr_right fun _ => ?_
  split
  · next isDirectory => simp [isDirectory]
  · next apart => rw [pure_eq_ok, eq_comm, and_iff_right fun isDirectory => apart isDirectory]

/-- What is written under a path is read under it. -/
theorem read_of_write {written : Disk} (wrote : disk.write path content = .ok written) :
    written.read path = .ok content := by
  obtain ⟨location, located, apart, rfl⟩ := write_eq_ok.1 wrote
  refine read_eq_ok.2 ⟨location, (keepsDirectories_insert apart content).locate located, ?_⟩
  rw [entry?_insert apart, if_pos rfl]

/-- A path at which a file can be put leads there. -/
theorem locate_of_locateTarget {target : Location} (found : disk.locateTarget path = .ok target) :
    disk.locate path = .ok target := by
  obtain ⟨parts, split, found⟩ := bind_eq_ok.1 found
  dsimp only at found
  obtain ⟨directory, followed, found⟩ := bind_eq_ok.1 found
  obtain ⟨location, entered, found⟩ := bind_eq_ok.1 found
  split at found
  · cases found
  next named =>
  split at found
  · cases found
  next unmarked =>
  obtain rfl := pure_eq_ok.1 found
  -- The last part is not empty, so it is the name and the others come before it.
  cases reversed : parts.reverse with
  | nil =>
    rw [reversed] at named
    exact absurd rfl named
  | cons name others =>
    have inked : name.isEmpty = false := by
      rw [reversed] at unmarked
      exact Bool.eq_false_iff.2 fun empty => unmarked (congrArg some (String.isEmpty_iff.1 empty))
    rw [reversed, List.dropWhile_cons_of_neg (by simp [inked])] at followed entered
    have whole : parts = others.reverse ++ [name] := by
      rw [← List.reverse_cons, ← reversed, List.reverse_reverse]
    obtain ⟨isDirectory, entered⟩ := follow_eq_ok.1 entered
    rw [locate_eq_enter (whole ▸ split) followed isDirectory]
    exact entered

/-- What a renamed file holds is read under its new path. -/
theorem read_of_rename {newPath : String} {moved : Disk} (reads : disk.read path = .ok content)
    (renamed : disk.rename path newPath = .ok moved) : moved.read newPath = .ok content := by
  obtain ⟨same, again, renamed⟩ := bind_eq_ok.1 renamed
  obtain rfl : same = content := Except.ok.inj (again.symm.trans reads)
  obtain ⟨place, located, isFile⟩ := read_eq_ok.1 reads
  obtain ⟨location, relocated, renamed⟩ := bind_eq_ok.1 renamed
  obtain rfl : location = place := Except.ok.inj (relocated.symm.trans located)
  obtain ⟨target, targeted, renamed⟩ := bind_eq_ok.1 renamed
  have erased := keepsDirectories_erase isFile
  split at renamed
  · cases renamed
  next apart =>
  obtain rfl := pure_eq_ok.1 renamed
  have stillApart : entry? ⟨disk.entries.erase location⟩ target ≠ some .directory := by
    rw [entry?_erase isFile]
    split
    · nofun
    · exact fun isDirectory => apart isDirectory
  refine read_eq_ok.2 ⟨target, ?_, ?_⟩
  · exact (erased.trans (keepsDirectories_insert stillApart _)).locate
      (locate_of_locateTarget targeted)
  · rw [entry?_insert stillApart, if_pos rfl]

end Disk

/-! ### The temporary path -/

namespace Location

theorem split_of_parts {path : String} {found : List String} (split : parts path = .ok found) :
    path ≠ "" ∧ Text.split '/' path = found := by
  unfold parts at split
  split at split
  · cases split
  · split at split
    · cases split
    · split at split
      · cases split
      · next named _ => exact ⟨fun empty => named (String.isEmpty_iff.2 empty), Except.ok.inj split⟩

theorem parent_ne_append {location : Location} {name : String} (down : name ≠ up) :
    location.parent ≠ location ++ [name] := by
  unfold parent
  split
  · next atRoot =>
    intro same
    rw [eq_of_beq atRoot] at same
    exact absurd (congrArg List.length same) (by simp [root])
  · split
    · intro same
      exact down (List.singleton_injective (List.append_cancel_left same)).symm
    · intro same
      have lengths := congrArg List.length same
      rw [List.length_dropLast, List.length_append, List.length_singleton] at lengths
      omega

end Location

namespace Text

theorem splitChars_of_not_mem {mark : Char} {characters : List Char}
    (unmarked : mark ∉ characters) :
    splitChars mark characters = [characters] := by
  rw [splitChars_eq_splitOn, List.splitOn_eq_singleton unmarked]

/-- What is appended without a mark belongs to the last part. -/
theorem splitChars_append {mark : Char} {ending : List Char} (unmarked : mark ∉ ending)
    (characters : List Char) :
    ∃ front last, splitChars mark characters = front ++ [last] ∧
      splitChars mark (characters ++ ending) = front ++ [last ++ ending] := by
  induction characters with
  | nil => exact ⟨[], [], rfl, splitChars_of_not_mem unmarked⟩
  | cons character rest inductionHypothesis =>
    obtain ⟨front, last, plain, appended⟩ := inductionHypothesis
    rw [List.cons_append, splitChars, splitChars, plain, appended]
    by_cases marked : character = mark
    · exact ⟨[] :: front, last, by rw [if_pos marked, List.cons_append],
        by rw [if_pos marked, List.cons_append]⟩
    · rw [if_neg marked, if_neg marked]
      cases front with
      | nil => exact ⟨[], character :: last, rfl, rfl⟩
      | cons first others => exact ⟨(character :: first) :: others, last, rfl, rfl⟩

end Text

namespace Vault

variable {path : String}

theorem toList_temporaryPath :
    (temporaryPath path).toList = path.toList ++ ['.', 't', 'm', 'p'] := by
  rw [temporaryPath, String.toList_append]
  rfl

/-- The parts of a path and of its temporary path differ in their last. -/
theorem parts_temporaryPath {parts temporaryParts : List String}
    (split : Location.parts path = .ok parts)
    (temporarySplit : Location.parts (temporaryPath path) = .ok temporaryParts) :
    ∃ front last, parts = front ++ [last] ∧ temporaryParts = front ++ [last ++ ".tmp"] := by
  obtain ⟨-, rfl⟩ := Location.split_of_parts split
  obtain ⟨-, rfl⟩ := Location.split_of_parts temporarySplit
  obtain ⟨front, last, plain, appended⟩ :=
    Text.splitChars_append (by decide : '/' ∉ ['.', 't', 'm', 'p']) path.toList
  refine ⟨front.map String.ofList, String.ofList last, ?_, ?_⟩
  · rw [Text.split, plain, List.map_append]
    rfl
  · rw [Text.split, toList_temporaryPath, appended, List.map_append, List.map_singleton,
      String.ofList_append]

theorem start_temporaryPath (named : path ≠ "") :
    Location.start (temporaryPath path) = Location.start path := by
  have same : (temporaryPath path).startsWith "/" = path.startsWith "/" := by
    rw [Bool.eq_iff_iff, String.startsWith_string_iff, String.startsWith_string_iff,
      toList_temporaryPath]
    cases characters : path.toList with
    | nil => exact absurd (String.toList_eq_nil_iff.1 characters) named
    | cons first rest => simp
  unfold Location.start
  rw [same]

theorem temporary_ne {last short : String} (few : short.length < 4) : last ++ ".tmp" ≠ short := by
  rintro rfl
  rw [String.length_append] at few
  exact absurd few (Nat.not_lt.2 (Nat.le_add_left 4 _))

/-- The name of a temporary file leads down to a place of its own, and the name of the file leads
elsewhere. -/
theorem enter_temporary {directory place : Location} {last : String}
    (entered : directory.enter (last ++ ".tmp") = .ok place) :
    directory.enter last ≠ .ok place := by
  have moves : Location.isStill (last ++ ".tmp") = false := by
    have named : last ++ ".tmp" ≠ "" := temporary_ne (by decide)
    rw [Location.isStill, Bool.or_eq_false_iff, beq_false_of_ne (temporary_ne (by decide))]
    exact ⟨Bool.eq_false_iff.2 fun empty => named (String.isEmpty_iff.1 empty), rfl⟩
  have down : last ++ ".tmp" ≠ Location.up := temporary_ne (by decide)
  have placed : place = directory ++ [last ++ ".tmp"] := by
    rw [Location.enter, if_neg (Bool.eq_false_iff.1 moves),
      if_neg fun up => down (eq_of_beq up)] at entered
    split at entered
    · cases entered
    · exact (Except.ok.inj entered).symm
  subst placed
  unfold Location.enter
  intro same
  split at same
  · simp at same
  split at same
  · exact Location.parent_ne_append down (Except.ok.inj same)
  split at same
  · cases same
  · have names := List.singleton_injective (List.append_cancel_left (Except.ok.inj same))
    have lengths := congrArg String.length names
    rw [String.length_append] at lengths
    exact absurd lengths (Nat.ne_of_lt (Nat.lt_add_of_pos_right (by decide)))

/-! ### Saving -/

/-- The path of a file and its temporary path lead through the same directory, if anything can be
written under the latter. -/
theorem locate_temporaryPath {disk : Disk} {place : Location} {parts : List String}
    (split : Location.parts path = .ok parts)
    (located : disk.locate (temporaryPath path) = .ok place) :
    ∃ front last directory, parts = front ++ [last] ∧
      front.foldlM disk.follow (Location.start path) = .ok directory ∧
      disk.entry? directory = some .directory ∧
      directory.enter (last ++ ".tmp") = .ok place := by
  obtain ⟨temporaryParts, temporarySplit, followed⟩ := bind_eq_ok.1 located
  obtain ⟨front, last, rfl, rfl⟩ := parts_temporaryPath split temporarySplit
  rw [start_temporaryPath (Location.split_of_parts split).1, List.foldlM_append,
    bind_eq_ok] at followed
  obtain ⟨directory, followed, ends⟩ := followed
  rw [List.foldlM_cons, bind_eq_ok] at ends
  obtain ⟨reached, ends, same⟩ := ends
  obtain rfl := pure_eq_ok.1 same
  obtain ⟨isDirectory, entered⟩ := Disk.follow_eq_ok.1 ends
  exact ⟨front, last, directory, rfl, followed, isDirectory, entered⟩

/-- What is written under the temporary path of a file leaves the file as it is. -/
theorem read_of_write_temporaryPath {disk written : Disk} {content : String}
    (wrote : disk.write (temporaryPath path) content = .ok written) :
    written.read path = disk.read path := by
  obtain ⟨place, located, apart, rfl⟩ := Disk.write_eq_ok.1 wrote
  cases split : Location.parts path with
  | error reason =>
    -- Such a path leads nowhere on any disk.
    simp only [Disk.read, Disk.locate, split]
    rfl
  | ok parts =>
    obtain ⟨front, last, directory, rfl, followed, isDirectory, entered⟩ :=
      locate_temporaryPath split located
    have keeps := Disk.keepsDirectories_insert apart content
    have before := Disk.locate_eq_enter split followed isDirectory
    have after := Disk.locate_eq_enter split (keeps.foldlM_follow followed) (keeps _ isDirectory)
    refine Disk.read_congr (after.trans before.symm) fun location reached => ?_
    have other : place ≠ location := by
      rintro rfl
      exact enter_temporary entered (before.symm.trans reached)
    rw [Disk.entry?_insert apart, if_neg other]

/-- A ledger that is saved stands in its file, and one that is not leaves the file as it was. -/
theorem save_cases (disk : Disk) (path : String) (ledger : Ledger) :
    (∃ saved, save disk path ledger = (saved, none) ∧ saved.read path = .ok ledger.prettyText) ∨
      ∃ left reason, save disk path ledger = (left, some reason) ∧
        left.read path = disk.read path := by
  unfold save
  dsimp only
  cases wrote : disk.write (temporaryPath path) ledger.prettyText with
  | error reason => exact Or.inr ⟨disk, _, rfl, rfl⟩
  | ok written =>
    cases renamed : written.rename (temporaryPath path) path with
    | error reason =>
      refine Or.inr ⟨written, .unavailable (s!"cannot replace {path}: " ++ reason.message), ?_,
        read_of_write_temporaryPath wrote⟩
      simp only [renamed]
    | ok moved =>
      refine Or.inl ⟨moved, ?_, Disk.read_of_rename (Disk.read_of_write wrote) renamed⟩
      simp only [renamed]

end Vault

end Entitlement
