/-
This file proves what the readers of records, lists and maps make of the JSON values that the
library writes itself: of a record whose names are plain words, of a list that is written item by
item, and of a map whose keys are spelled as names.
-/

import Entitlement.Ledger.Json
import Entitlement.Proofs.JsonText
import Entitlement.Proofs.Ordered

namespace Entitlement

/-! ### Maps and sets from lists -/

namespace OrderedMap

variable {Key Value : Type} [Ord Key] [Std.TransOrd Key] [Std.LawfulEqOrd Key]

theorem get?_foldl_insert {entries : List (Key × Value)} (distinct : (entries.map Prod.fst).Nodup)
    {map : OrderedMap Key Value} {key : Key} {value : Value} :
    (entries.foldl (fun map entry => map.insert entry.1 entry.2) map).get? key = some value ↔
      (key, value) ∈ entries ∨ (key ∉ entries.map Prod.fst ∧ map.get? key = some value) := by
  induction entries generalizing map with
  | nil => simp
  | cons entry rest inductionHypothesis =>
    obtain ⟨first, given⟩ := entry
    obtain ⟨apart, distinctRest⟩ := List.nodup_cons.1 distinct
    rw [List.foldl_cons, inductionHypothesis distinctRest, get?_insert_eq_some]
    have absent : ∀ other, (first, other) ∉ rest := fun other member =>
      apart (List.mem_map.2 ⟨_, member, rfl⟩)
    by_cases same : key = first
    · subst same
      simp [absent, apart, eq_comm]
    · simp [same]

/-- Without repetitions every entry of the list is in its map. -/
theorem get?_ofList {entries : List (Key × Value)} (distinct : (entries.map Prod.fst).Nodup)
    {key : Key} {value : Value} :
    (ofList entries).get? key = some value ↔ (key, value) ∈ entries := by
  unfold ofList
  rw [get?_foldl_insert distinct]
  simp

theorem ofList_entries (map : OrderedMap Key Value) : ofList map.entries = map := by
  refine ext_get? fun key => Option.ext fun value => ?_
  rw [get?_ofList map.nodup_keys, get?_eq_some_iff_mem]

theorem entries_ofList_perm {entries : List (Key × Value)}
    (distinct : (entries.map Prod.fst).Nodup) : (ofList entries).entries.Perm entries := by
  refine (List.perm_ext_iff_of_nodup (nodup_entries _) (List.Nodup.of_map _ distinct)).2
    fun entry => ?_
  rw [← get?_ofList distinct, get?_eq_some_iff_mem]

end OrderedMap

theorem OrderedSet.ofList_elements {Element : Type} [Ord Element] [Std.TransOrd Element]
    [Std.LawfulEqOrd Element] (set : OrderedSet Element) : ofList set.elements = set :=
  ext_mem fun _ => mem_ofList

namespace Json

/-! ### Names -/

theorem Spelling.encodeChar_of_isPlain {character : Char} (plain : isPlain character = true) :
    encodeChar character = [character] := by
  have large : ¬character.toNat < 0x20 := by
    simp only [isPlain, Bool.and_eq_true, decide_eq_true_eq] at plain
    omega
  unfold encodeChar
  split
  any_goals
    revert plain
    decide
  exact if_neg large

/-- Plain characters spell themselves. -/
theorem Spelling.encode_of_isPlain {name : String} (plain : name.toList.all isPlain = true) :
    encode name = name := by
  have same : encodeChars name.toList = name.toList := by
    unfold encodeChars
    conv_rhs => rw [← List.flatMap_singleton' name.toList]
    exact List.flatMap_congr fun character member =>
      encodeChar_of_isPlain (List.all_eq_true.1 plain character member)
  rw [encode, same, String.ofList_toList]

/-- Names for the fields of a record: they spell themselves and differ. -/
structure AreFieldNames (names : List String) : Prop where
  plain : ∀ name ∈ names, name.toList.all Spelling.isPlain = true
  distinct : names.Nodup

instance (names : List String) : Decidable (AreFieldNames names) :=
  decidable_of_iff ((∀ name ∈ names, name.toList.all Spelling.isPlain = true) ∧ names.Nodup)
    ⟨fun both => ⟨both.1, both.2⟩, fun fields => ⟨fields.plain, fields.distinct⟩⟩

variable {names : List String} {members : List (String × Json)}

/-- Members with the names of fields are spelled as they are named. -/
theorem AreFieldNames.map_spelledMember (fields : AreFieldNames (members.map Prod.fst)) :
    members.map spelledMember = members := by
  conv_rhs => rw [← List.map_id members]
  refine List.map_congr_left fun member isMember => ?_
  rw [spelledMember, Spelling.encode_of_isPlain (fields.plain _ (List.mem_map_of_mem isMember))]
  rfl

theorem Plain.record {room : Nat} (listed : members.map Prod.fst = names)
    (fields : AreFieldNames names) (each : ∀ member ∈ members, Plain room member.2) :
    Plain (room + 1) (Json.object members) := by
  subst listed
  exact .object members fields.map_spelledMember.symm fields.distinct each

/-! ### Records -/

/-- Members that are spelled so are named so. -/
theorem named?_spelled (named : List (String × Json)) :
    named? (named.map spelledMember) = some named := by
  induction named with
  | nil => rfl
  | cons member rest inductionHypothesis =>
    unfold named? at inductionHypothesis ⊢
    rw [List.map_cons, List.mapM_cons, inductionHypothesis, spelledMember, Spelling.decode?_encode]
    rfl

/-- Members taken as fields. -/
def Fields.given (members : List (String × Json)) : Fields :=
  members

/-- The fields of a record are its members, if these have just the names of the fields. -/
theorem ofMembers?_record (listed : members.map Prod.fst = names) (fields : AreFieldNames names) :
    ofMembers? names members = some (Fields.given members) := by
  subst listed
  have named : named? members = some members := by
    conv_lhs => rw [← fields.map_spelledMember]
    exact named?_spelled members
  have known : (members.filter fun member => (members.map Prod.fst).contains member.1) = members :=
    List.filter_eq_self.2 fun _ isMember => List.contains_iff_mem.2 (List.mem_map_of_mem isMember)
  simp only [ofMembers?, named, Option.bind_eq_bind, Option.bind_some, known, fields.distinct]
  rfl

/-- The fields of a record that is an object. -/
theorem fields?_record (listed : members.map Prod.fst = names) (fields : AreFieldNames names) :
    fields? names (object members) = some (Fields.given members) :=
  ofMembers?_record listed fields

namespace Fields

variable (name other : String) (value : Json) (rest : List (String × Json))

theorem value?_cons :
    value? (given ((other, value) :: rest)) name =
      if name = other then some value else value? (given rest) name := by
  show List.lookup name ((other, value) :: rest) = if _ then _ else List.lookup name rest
  rw [List.lookup_cons]
  by_cases same : name = other
  · rw [if_pos same, beq_iff_eq.2 same]
  · rw [if_neg same, beq_eq_false_iff_ne.2 same]

variable {Value : Type} {read : Json → Option Value}

theorem required?_cons :
    required? (given ((other, value) :: rest)) name read =
      if name = other then read value else required? (given rest) name read := by
  unfold required?
  rw [value?_cons]
  split <;> rfl

theorem optional?_cons :
    optional? (given ((other, value) :: rest)) name read =
      if name = other then asOption? read value else optional? (given rest) name read := by
  unfold optional? defaulted?
  rw [value?_cons]
  by_cases same : name = other
  · rw [if_pos same, if_pos same]
  · rw [if_neg same, if_neg same]

end Fields

/-! ### Single values -/

theorem asWord64?_natural {value : Nat} (fits : value < Nat.pow 2 64) :
    asWord64? (natural value) = some value :=
  if_pos fits

theorem asWord32?_natural {value : Nat} (fits : value < Nat.pow 2 32) :
    asWord32? (natural value) = some value :=
  if_pos fits

theorem plain_natural {room value : Nat} (fits : value < Nat.pow 2 64) :
    Plain room (natural value) := by
  have bound : Nat.pow 2 64 = 0x10000000000000000 := by decide
  rw [bound] at fits
  refine .integer ?_
  simp only [isWord, Bool.and_eq_true, decide_eq_true_eq]
  omega

theorem asOption?_asBool? (value : Option Bool) :
    asOption? asBool? (ofOptionBool value) = some value := by
  cases value <;> rfl

theorem plain_ofOptionBool {room : Nat} (value : Option Bool) :
    Plain room (ofOptionBool value) := by
  cases value with
  | none => exact .null
  | some value => exact .bool value

theorem asTimestamp?_ofTimestamp (timestamp : Timestamp) :
    asTimestamp? (ofTimestamp timestamp) = some timestamp := by
  rw [asTimestamp?, ofTimestamp, asText?, Option.bind_some, Timestamp.ofText?_text]

/-! ### Lists and maps -/

theorem mapM_map_eq_some {Value Written : Type} {write : Value → Written}
    {read : Written → Option Value} {values : List Value}
    (reads : ∀ value ∈ values, read (write value) = some value) :
    (values.map write).mapM read = some values := by
  induction values with
  | nil => rfl
  | cons first rest inductionHypothesis =>
    rw [List.map_cons, List.mapM_cons, reads first List.mem_cons_self,
      inductionHypothesis fun value member => reads value (List.mem_cons_of_mem _ member)]
    rfl

theorem asList?_array {Value : Type} {write : Value → Json} {read : Json → Option Value}
    {values : List Value} (reads : ∀ value ∈ values, read (write value) = some value) :
    asList? read (array (values.map write)) = some values :=
  mapM_map_eq_some reads

theorem plain_array {Value : Type} {write : Value → Json} {values : List Value} {room : Nat}
    (each : ∀ value ∈ values, Plain room (write value)) :
    Plain (room + 1) (array (values.map write)) :=
  .array (List.forall_mem_map.2 each)

variable {Key Value : Type} [Ord Key] [Std.TransOrd Key] [Std.LawfulEqOrd Key]
  {map : OrderedMap Key Value} {spell : Key → String} {write : Value → Json}

theorem asMap?_ofMap {readKey : String → Option Key} {read : Json → Option Value}
    (reads : ∀ entry ∈ map.entries,
      readKey (spell entry.1) = some entry.1 ∧ read (write entry.2) = some entry.2) :
    asMap? readKey read (ofMap spell write map) = some map := by
  unfold asMap? ofMap
  simp only
  rw [mapM_map_eq_some fun entry member => ?_, Option.map_some, OrderedMap.ofList_entries]
  obtain ⟨readsKey, readsValue⟩ := reads entry member
  simp [readsKey, readsValue]

omit [Std.TransOrd Key] in
theorem plain_ofMap {room : Nat} {name : Key → String} (injective : Function.Injective name)
    (spells : ∀ key, spell key = Spelling.encode (name key))
    (each : ∀ entry ∈ map.entries, Plain room (write entry.2)) :
    Plain (room + 1) (ofMap spell write map) := by
  refine .object (map.entries.map fun entry => (name entry.1, write entry.2)) ?_ ?_
    (List.forall_mem_map.2 each)
  · rw [List.map_map]
    exact List.map_congr_left fun entry _ => Prod.ext (spells entry.1) rfl
  · have distinct := List.Nodup.map injective map.nodup_keys
    rwa [List.map_map] at distinct ⊢

end Json

end Entitlement
