/-
This file proves that the form in which a JSON value is kept is read as the value itself. A plain
value is kept with the members of its objects in the order of their names. The readers of records
look their fields up by name, so the order makes no difference to them, and the readers of texts and
lists meet the same texts and items.
-/

import Entitlement.Proofs.JsonFields

namespace Entitlement

namespace Json

/-! ### The kept form of plain values -/

theorem canonicalItems_eq (items : List Json) : canonicalItems items = items.map canonical := by
  induction items with
  | nil => rfl
  | cons item rest inductionHypothesis => rw [canonicalItems, inductionHypothesis, List.map_cons]

/-- A member with its value as it is kept. -/
def keptMember (member : String × Json) : String × Json :=
  (member.1, canonical member.2)

theorem canonicalMembers_eq (members : List (String × Json)) :
    canonicalMembers members = members.map keptMember := by
  induction members with
  | nil => rfl
  | cons member rest inductionHypothesis =>
    rw [canonicalMembers, inductionHypothesis, List.map_cons, keptMember]

/-- The members of an object as they are kept are those of the map of their names. -/
theorem sortedMembers_spelled (named : List (String × Json)) :
    sortedMembers (canonicalMembers (named.map spelledMember)) =
      (OrderedMap.ofList (named.map keptMember)).entries.map spelledMember := by
  have names : (canonicalMembers (named.map spelledMember)).map (fun member =>
      ((Spelling.decode? member.1).getD member.1, member.2)) = named.map keptMember := by
    simp [canonicalMembers_eq, keptMember, spelledMember, Spelling.decode?_encode]
  rw [sortedMembers]
  simp only [names]
  rfl

/-! ### Objects with their members in another order -/

/-- Members of an object and the same members as they are kept, in any order. -/
inductive Reordered : List (String × Json) → List (String × Json) → Prop where
  | intro {named kept : List (String × Json)}
    (plain : ∀ member ∈ named, ∃ room, Plain room member.2) (distinct : (named.map Prod.fst).Nodup)
    (permuted : kept.Perm (named.map keptMember)) :
    Reordered (named.map spelledMember) (kept.map spelledMember)

theorem map_fst_keptMember (named : List (String × Json)) :
    (named.map keptMember).map Prod.fst = named.map Prod.fst := by
  rw [List.map_map]
  rfl

/-- The members of an object are kept in the order of their names. -/
theorem reordered_sorted {room : Nat} {named : List (String × Json)}
    (distinct : (named.map Prod.fst).Nodup) (each : ∀ member ∈ named, Plain room member.2) :
    Reordered (named.map spelledMember)
      (sortedMembers (canonicalMembers (named.map spelledMember))) := by
  rw [sortedMembers_spelled]
  refine .intro (fun member isMember => ⟨room, each member isMember⟩) distinct ?_
  exact OrderedMap.entries_ofList_perm (map_fst_keptMember named ▸ distinct)

theorem filter_spelled (named : List (String × Json)) (name : String) :
    ((named.map spelledMember).filter fun member => Spelling.decode? member.1 != some name) =
      (named.filter fun member => member.1 != name).map spelledMember := by
  rw [List.filter_map]
  refine congrArg (List.map spelledMember) (List.filter_congr fun member _ => ?_)
  rw [Function.comp_apply, spelledMember, Spelling.decode?_encode, Bool.eq_iff_iff]
  simp

/-- Members that are left after those of one name are taken away. -/
theorem Reordered.filter {members kept : List (String × Json)} (reordered : Reordered members kept)
    (name : String) :
    Reordered (members.filter fun member => Spelling.decode? member.1 != some name)
      (kept.filter fun member => Spelling.decode? member.1 != some name) := by
  obtain ⟨plain, distinct, permuted⟩ := reordered
  rw [filter_spelled, filter_spelled]
  refine .intro (fun member isMember => plain member (List.mem_of_mem_filter isMember))
    (distinct.sublist (List.filter_sublist.map _)) ?_
  have filtered := permuted.filter fun member => member.1 != name
  rwa [List.filter_map] at filtered

/-! ### Fields -/

/-- Fields that give what other fields give, as it is kept. -/
structure Fields.Keeps (fields kept : Fields) : Prop where
  same : ∀ name, kept.value? name = (fields.value? name).map canonical
  plain : ∀ name value, fields.value? name = some value → ∃ room, Plain room value

/-- Without repetitions a name is found wherever it stands. -/
theorem lookup_eq_some_iff_mem {Value : Type} {entries : List (String × Value)}
    (distinct : (entries.map Prod.fst).Nodup) {name : String} {value : Value} :
    entries.lookup name = some value ↔ (name, value) ∈ entries := by
  induction entries with
  | nil => simp
  | cons entry rest inductionHypothesis =>
    obtain ⟨first, given⟩ := entry
    obtain ⟨apart, distinctRest⟩ := List.nodup_cons.1 distinct
    rw [List.lookup_cons, List.mem_cons, Prod.mk.injEq]
    by_cases same : name = first
    · subst same
      have absent : (name, value) ∉ rest := fun member => apart (List.mem_map.2 ⟨_, member, rfl⟩)
      simp [absent, eq_comm]
    · rw [beq_eq_false_iff_ne.2 same]
      simp [same, inductionHypothesis distinctRest]

theorem ofMembers?_spelled (names : List String) {named : List (String × Json)}
    (distinct : (named.map Prod.fst).Nodup) :
    ofMembers? names (named.map spelledMember) =
      some (Fields.given (named.filter fun member => names.contains member.1)) := by
  have known := distinct.sublist
    ((List.filter_sublist (p := fun member => names.contains member.1)).map Prod.fst)
  simp only [ofMembers?, named?_spelled, Option.bind_eq_bind, Option.bind_some, known]
  rfl

theorem keeps_of_perm {named kept : List (String × Json)}
    (plain : ∀ member ∈ named, ∃ room, Plain room member.2) (distinct : (named.map Prod.fst).Nodup)
    (permuted : kept.Perm (named.map keptMember)) :
    Fields.Keeps (Fields.given named) (Fields.given kept) := by
  have keptDistinct : (kept.map Prod.fst).Nodup :=
    (permuted.map Prod.fst).nodup_iff.2 (map_fst_keptMember named ▸ distinct)
  refine ⟨fun name => Option.ext fun value => ?_, fun name value found => ?_⟩
  · show kept.lookup name = some value ↔ (named.lookup name).map canonical = some value
    simp only [lookup_eq_some_iff_mem keptDistinct, permuted.mem_iff, List.mem_map,
      Option.map_eq_some_iff, lookup_eq_some_iff_mem distinct, keptMember, Prod.mk.injEq]
    constructor
    · rintro ⟨⟨other, given⟩, member, rfl, rfl⟩
      exact ⟨given, member, rfl⟩
    · rintro ⟨given, member, rfl⟩
      exact ⟨(name, given), member, rfl, rfl⟩
  · exact plain _ ((lookup_eq_some_iff_mem distinct).1 found)

/-- The known members of an object give what they give as they are kept. -/
theorem Reordered.ofMembers? {members kept : List (String × Json)}
    (reordered : Reordered members kept) (names : List String) :
    ∃ fields keptFields, ofMembers? names members = some fields ∧
      ofMembers? names kept = some keptFields ∧ fields.Keeps keptFields := by
  obtain @⟨named, kept, plain, distinct, permuted⟩ := reordered
  have keptDistinct : (kept.map Prod.fst).Nodup :=
    (permuted.map Prod.fst).nodup_iff.2 (map_fst_keptMember named ▸ distinct)
  refine ⟨_, _, ofMembers?_spelled names distinct, ofMembers?_spelled names keptDistinct, ?_⟩
  refine keeps_of_perm (fun member isMember => plain member (List.mem_of_mem_filter isMember))
    (distinct.sublist (List.filter_sublist.map _)) ?_
  have filtered := permuted.filter fun member => names.contains member.1
  rwa [List.filter_map] at filtered

/-! ### Readers that do not mind the order -/

/-- A reader that makes of a plain value as it is kept what it makes of the value. -/
def Stable {Value : Type} (read : Json → Option Value) : Prop :=
  ∀ room json, Plain room json → read json.canonical = read json

theorem stable_asText? : Stable asText? := by
  intro room json plain
  cases plain with
  | integer word => simp [canonical, canonicalScalar, word]
  | _ => rfl

theorem stable_asBool? : Stable asBool? := by
  intro room json plain
  cases plain with
  | integer word => simp [canonical, canonicalScalar, word]
  | _ => rfl

variable {Value : Type} {read : Json → Option Value}

theorem Stable.asOption? (stable : Stable read) : Stable (asOption? read) := by
  intro room json plain
  have same := stable room json plain
  cases plain with
  | integer word => simp [canonical, canonicalScalar, word]
  | null => rfl
  | _ => exact congrArg (Option.map some) same

theorem mapM_canonical (stable : Stable read) {room : Nat} {items : List Json}
    (each : ∀ item ∈ items, Plain room item) :
    (items.map canonical).mapM read = items.mapM read := by
  induction items with
  | nil => rfl
  | cons item rest inductionHypothesis =>
    rw [List.map_cons, List.mapM_cons, List.mapM_cons,
      stable room item (each item List.mem_cons_self),
      inductionHypothesis fun other member => each other (List.mem_cons_of_mem _ member)]

theorem Stable.asList? (stable : Stable read) : Stable (asList? read) := by
  intro room json plain
  cases plain with
  | integer word => simp [canonical, canonicalScalar, word]
  | array each =>
    rw [canonical, canonicalItems_eq]
    exact mapM_canonical stable each
  | _ => rfl

namespace Fields.Keeps

variable {fields kept : Fields} (keeps : fields.Keeps kept) (stable : Stable read)

include keeps stable

theorem required? (name : String) : kept.required? name read = fields.required? name read := by
  rw [Fields.required?, Fields.required?, keeps.same]
  cases found : fields.value? name with
  | none => rfl
  | some value =>
    obtain ⟨room, plain⟩ := keeps.plain name value found
    exact stable room value plain

theorem optional? (name : String) : kept.optional? name read = fields.optional? name read := by
  rw [Fields.optional?, Fields.optional?, Fields.defaulted?, Fields.defaulted?, keeps.same]
  cases found : fields.value? name with
  | none => rfl
  | some value =>
    obtain ⟨room, plain⟩ := keeps.plain name value found
    exact stable.asOption? room value plain

end Fields.Keeps

/-! ### Readers of records -/

/-- A reader that makes of an object as it is kept, in any order of its members, what it makes of
the object. -/
def StableOnObjects (read : Json → Option Value) : Prop :=
  ∀ members kept, Reordered members kept → read (object kept) = read (object members)

theorem StableOnObjects.canonical (stable : StableOnObjects read) {room : Nat}
    {members : List (String × Json)} (plain : Plain room (object members)) :
    read (object members).canonical = read (object members) := by
  cases plain with
  | object named spelled distinct each =>
    subst spelled
    exact stable _ _ (reordered_sorted distinct each)

/-- A way to build a value from fields that asks for no more than what they give. -/
def StableOnFields (build : Fields → Option Value) : Prop :=
  ∀ fields kept : Fields, fields.Keeps kept → build kept = build fields

variable {build : Fields → Option Value}

theorem StableOnFields.onObjects (stable : StableOnFields build) (names : List String) :
    StableOnObjects fun json => json.fields? names >>= build := by
  intro members kept reordered
  obtain ⟨fields, keptFields, given, keptGiven, keeps⟩ := reordered.ofMembers? names
  show (ofMembers? names kept >>= build) = (ofMembers? names members >>= build)
  rw [given, keptGiven]
  exact stable fields keptFields keeps

theorem lookup_map_keptMember (entries : List (String × Json)) (name : String) :
    (entries.map keptMember).lookup name = (entries.lookup name).map canonical := by
  induction entries with
  | nil => rfl
  | cons entry rest inductionHypothesis =>
    obtain ⟨first, given⟩ := entry
    rw [List.map_cons, keptMember, List.lookup_cons, List.lookup_cons, inductionHypothesis]
    cases name == first <;> rfl

/-- The items of an array in the place of fields. -/
theorem keeps_zip (names : List String) {room : Nat} {items : List Json}
    (each : ∀ item ∈ items, Plain room item) :
    Fields.Keeps (Fields.given (names.zip items))
      (Fields.given (names.zip (items.map canonical))) := by
  refine ⟨fun name => ?_, fun name value found => ?_⟩
  · have zipped : names.zip (items.map canonical) = (names.zip items).map keptMember := by
      rw [List.zip_map_right]
      rfl
    rw [zipped]
    exact lookup_map_keptMember (names.zip items) name
  · replace found : (names.zip items).lookup name = some value := found
    obtain ⟨before, after, split, -⟩ := List.lookup_eq_some_iff.1 found
    have member : (name, value) ∈ names.zip items := split ▸ List.mem_append_cons_self
    exact ⟨room, each value (List.of_mem_zip member).2⟩

theorem StableOnFields.record (stable : StableOnFields build) (names : List String) :
    Stable fun json => json.fields? names >>= build := by
  intro room json plain
  cases plain with
  | integer word => simp [canonical, canonicalScalar, word]
  | array each =>
    rw [canonical, canonicalItems_eq]
    simp only [fields?, List.length_map]
    split
    · exact stable _ _ (keeps_zip names each)
    · rfl
  | object named spelled distinct each =>
    exact (stable.onObjects names).canonical (.object named spelled distinct each)
  | _ => rfl

end Json

end Entitlement
