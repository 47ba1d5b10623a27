/-
This file holds the files that a store may read and write, as a value: texts and directories
in their places, and the three operations that the store needs, with the ways in which they
fail. A path is followed part by part, and each part but the last must lead to a directory; so
must the last if a slash or a part of dots comes after it.
-/

import Entitlement.Disk.Location
import Entitlement.Ordered.Map

namespace Entitlement

inductive DiskEntry where
  | file (content : String)
  | directory
deriving DecidableEq

/-- What there is below the base and around it. -/
structure Disk where
  entries : OrderedMap Location DiskEntry
deriving DecidableEq

namespace Disk

def empty : Disk :=
  ⟨OrderedMap.empty⟩

instance : Inhabited Disk := ⟨empty⟩

def entry? (disk : Disk) (location : Location) : Option DiskEntry :=
  if location.isSurrounding then some .directory else disk.entries.get? location

/-! ### Following paths -/

/-- One part of a path, followed from a place that must be a directory. -/
def follow (disk : Disk) (location : Location) (part : String) : Except DiskError Location :=
  match disk.entry? location with
  | some .directory => location.enter part
  | some (.file _) => .error .notDirectory
  | none => .error .notFound

/-- The place of a path, where there need not be anything. -/
def locate (disk : Disk) (path : String) : Except DiskError Location := do
  (← Location.parts path).foldlM disk.follow (Location.start path)

/-- The place of a path at which a file may be put in place of another. The path must end with
a name, and that name must not be marked as that of a directory. -/
def locateTarget (disk : Disk) (path : String) : Except DiskError Location := do
  let reversed := (← Location.parts path).reverse
  let name := (reversed.dropWhile String.isEmpty).headD ""
  let before := (reversed.dropWhile String.isEmpty).tail.reverse
  let directory ← before.foldlM disk.follow (Location.start path)
  let location ← disk.follow directory name
  if Location.isStill name || name == Location.up then throw .busy
  else if reversed.head? = some "" then throw .notDirectory
  else return location

/-! ### The operations of a store -/

def read (disk : Disk) (path : String) : Except DiskError String := do
  match disk.entry? (← disk.locate path) with
  | some (.file content) => return content
  | some .directory => throw .isDirectory
  | none => throw .notFound

/-- The disk with a file of the content, new or in place of an old one. -/
def write (disk : Disk) (path content : String) : Except DiskError Disk := do
  let location ← disk.locate path
  match disk.entry? location with
  | some .directory => throw .isDirectory
  | _ => return ⟨disk.entries.insert location (.file content)⟩

/-- The disk with a file under another path, where it takes the place of another file. -/
def rename (disk : Disk) (path newPath : String) : Except DiskError Disk := do
  let content ← disk.read path
  let location ← disk.locate path
  let target ← disk.locateTarget newPath
  match disk.entry? target with
  | some .directory => throw .isDirectory
  | _ => return ⟨(disk.entries.erase location).insert target (.file content)⟩

/-- The text of a file that is there. -/
def content? (disk : Disk) (path : String) : Option String :=
  (disk.read path).toOption

/-! ### What others do to it -/

/-- The disk with a directory in a place, unless there is one. -/
def withDirectory (disk : Disk) (location : Location) : Disk :=
  if location.isSurrounding then disk else ⟨disk.entries.insert location .directory⟩

/-- The disk with an entry that others put there, and the directories on the way to it. -/
def place (disk : Disk) (path : String) (entry : DiskEntry) : Disk :=
  let found := (Text.split '/' path).foldl (fun (found : Disk × Location) part =>
    if Location.isStill part then found
    else
      let disk := found.1.withDirectory found.2
      if part == Location.up then (disk, found.2.parent) else (disk, found.2 ++ [part]))
    (disk, Location.start path)
  if found.2.isSurrounding then found.1 else ⟨found.1.entries.insert found.2 entry⟩

end Disk

end Entitlement
