/-
This file holds the resource hierarchies of the components and the form in which paths are
stored. A component lists sequences of resource types; a path fits a sequence when its types
begin it. A stored path is the number of the first sequence that fits, counted from one, and
the names of the steps in four slots.
-/

import Entitlement.ModelError
import Entitlement.Ordered.Map
import Entitlement.Step

namespace Entitlement

/-! ### Stored paths -/

/-- The names of a path, with a mark in the slots that are not used. -/
structure Slots where
  names : List String
  full : names.length = Step.maxDepth
deriving DecidableEq

namespace Slots

/-- The slots that begin with the given names and are not used after them. -/
def ofNames (names : List String) (fits : names.length ≤ Step.maxDepth) : Slots where
  names := names ++ List.replicate (Step.maxDepth - names.length) Step.unusedMark
  full := by rw [List.length_append, List.length_replicate, Nat.add_sub_cancel' fits]

def empty : Slots :=
  ofNames [] (Nat.zero_le _)

/-- The name in a slot, unless the slot is not used or not there. -/
def get? (slots : Slots) (index : Nat) : Option String :=
  slots.names[index]?.filter (· != Step.unusedMark)

/-- The names before the first slot that is not used. -/
def used (slots : Slots) : List String :=
  slots.names.takeWhile (· != Step.unusedMark)

def depth (slots : Slots) : Nat :=
  slots.used.length

end Slots

/-- A path as it is stored: the tag of its type sequence and its names. -/
structure StoredPath where
  tag : Nat
  slots : Slots
deriving DecidableEq

/-! ### Type sequences -/

/-- The type sequences of every component, in the order in which they were registered. -/
structure Hierarchies where
  byComponent : OrderedMap String (List (List String))

namespace Hierarchies

def empty : Hierarchies :=
  ⟨OrderedMap.empty⟩

instance : Inhabited Hierarchies := ⟨empty⟩

/-- A sequence is added after those that the component has. -/
def register (hierarchies : Hierarchies) (component : String) (types : List String) :
    Hierarchies :=
  let key := Text.lower (Text.trim component)
  let earlier := (hierarchies.byComponent.get? key).getD []
  ⟨hierarchies.byComponent.insert key (earlier ++ [types])⟩

def sequences (hierarchies : Hierarchies) (component : String) :
    Except ModelError (List (List String)) :=
  match hierarchies.byComponent.get? (Text.lower (Text.trim component)) with
  | some sequences => .ok sequences
  | none => .error (.unknownComponent component)

/-- Whether the types of the steps begin the sequence. -/
def begins (steps : List Step) (types : List String) : Bool :=
  steps.length ≤ types.length &&
    (steps.zip types).all fun pair => Text.sameAsciiCase pair.1.type pair.2

/-- The tag of a path: zero when it has no steps, or else the number of the first sequence that
it begins. The number is a word of 32 bits where `FitsWords` holds. -/
def tagFor (hierarchies : Hierarchies) (component : String) (steps : List Step) :
    Except ModelError Nat := do
  let sequences ← hierarchies.sequences component
  if steps.isEmpty then return 0
  match sequences.findIdx? (begins steps) with
  | some index => return index + 1
  | none => throw (.unmatchedTypes component (steps.map Step.type))

/-- No component has more type sequences than there are tags for. -/
def FitsWords (hierarchies : Hierarchies) : Prop :=
  ∀ entry ∈ hierarchies.byComponent.entries, entry.2.length < Nat.pow 2 32

/-- The type sequences of a component in the order of their tags, from the empty one of zero. -/
def typesByTag (hierarchies : Hierarchies) (component : String) :
    Except ModelError (List (List String)) :=
  (hierarchies.sequences component).map ([] :: ·)

/-- The type sequence of a tag. -/
def typesFor (hierarchies : Hierarchies) (component : String) (tag : Nat) :
    Except ModelError (List String) := do
  match (← hierarchies.typesByTag component)[tag]? with
  | some types => return types
  | none => throw (.unknownTag component tag)

/-- The stored form of a path. -/
def encode (hierarchies : Hierarchies) (component : String) (steps : List Step) :
    Except ModelError StoredPath :=
  if fits : steps.length ≤ Step.maxDepth then do
    let tag ← hierarchies.tagFor component steps
    match steps.find? fun step => !step.isStorable with
    | some step => throw (.unstorableName step.type)
    | none => return ⟨tag, Slots.ofNames (steps.map Step.name) (by rwa [List.length_map])⟩
  else throw (.tooDeep steps.length)

/-- The path of a stored form: its names up to the first slot that is not used, as far as the
sequence has types for them. -/
def decode (hierarchies : Hierarchies) (component : String) (path : StoredPath) :
    Except ModelError (List Step) := do
  let types ← hierarchies.typesFor component path.tag
  return path.slots.used.zipWith (fun name type => ⟨type, name⟩) types

end Hierarchies

end Entitlement
