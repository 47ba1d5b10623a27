/-
This file holds the places that paths lead to and the ways in which an operation on a path can
fail. A place is a list of names below the base, the directory in which relative paths start.
Around the base there are directories of which nothing else is known: those above it, reached by
going up from the base, and the root, in which absolute paths start.
-/

import Entitlement.Text.Split

namespace Entitlement

/-- Why an operation on a path failed. -/
inductive DiskError where
  | notFound
  | isDirectory
  /-- A part of the path that must be a directory is a file. -/
  | notDirectory
  | nameTooLong
  /-- A place that names itself by dots or slashes cannot be replaced. -/
  | busy
  /-- The path has a character of code zero. -/
  | zeroInPath
deriving DecidableEq, Repr

def DiskError.message : DiskError → String
  | notFound => "No such file or directory (os error 2)"
  | isDirectory => "Is a directory (os error 21)"
  | notDirectory => "Not a directory (os error 20)"
  | nameTooLong => "File name too long (os error 36)"
  | busy => "Device or resource busy (os error 16)"
  | zeroInPath => "file name contained an unexpected NUL byte"

/-- A place: the names on the way to it. The directories above the base are reached by names of
two dots, and the root by a slash. -/
abbrev Location := List String

namespace Location

def base : Location := []

def root : Location := ["/"]

/-- The name that leads up. -/
def up : String := ".."

/-- Whether a part of a path stays where it is. -/
def isStill (part : String) : Bool :=
  part.isEmpty || part == "."

/-- Whether it is the base, a directory above it or the root. -/
def isSurrounding (location : Location) : Bool :=
  location == root || location.all (· == up)

/-- The directory that holds a place. The root holds itself. -/
def parent (location : Location) : Location :=
  if location == root then root
  else if location.isSurrounding then location ++ [up]
  else location.dropLast

/-- Where a path starts. -/
def start (path : String) : Location :=
  if path.startsWith "/" then root else base

/-- The bytes that a name may have. -/
def maxNameSize : Nat := 255

/-- The bytes that a path may have. -/
def maxPathSize : Nat := 4095

/-- The place to which a part of a path leads from a directory. -/
def enter (location : Location) (part : String) : Except DiskError Location :=
  if isStill part then .ok location
  else if part == up then .ok location.parent
  else if maxNameSize < part.utf8ByteSize then .error .nameTooLong
  else .ok (location ++ [part])

/-- The parts of a path between its slashes, if it can be a path at all. -/
def parts (path : String) : Except DiskError (List String) :=
  if path.toList.contains '\x00' then .error .zeroInPath
  else if path.isEmpty then .error .notFound
  else if maxPathSize < path.utf8ByteSize then .error .nameTooLong
  else .ok (Text.split '/' path)

end Location

end Entitlement
