/-
This file proves that a change is read from what is written of it: from the payload of its event,
where the members of objects stand in the order of their names, and from its own text. Privileges
are read through drafts, so this needs that they are in their normal form.
-/

import Entitlement.Event.Json
import Entitlement.Proofs.Drafts
import Entitlement.Proofs.KeptJson

namespace Entitlement

open Json (Plain AreFieldNames Stable)

/-! ### Steps and privileges -/

theorem Json.AreFieldNames.tail {name : String} {names : List String}
    (fields : AreFieldNames (name :: names)) : AreFieldNames names :=
  ⟨fun other member => fields.plain other (List.mem_cons_of_mem _ member),
    (List.nodup_cons.1 fields.distinct).2⟩

namespace Step

theorem ofJson?_toJson (step : Step) : ofJson? step.toJson = some step := by
  have fields : step.toJson.fields? ["type_name", "name"] = _ := Json.fields?_record rfl (by decide)
  simp [ofJson?, fields, Json.Fields.required?_cons, Json.asText?]

theorem plain_toJson (step : Step) (room : Nat) : Plain (room + 1) step.toJson := by
  refine .record rfl (by decide : AreFieldNames ["type_name", "name"]) ?_
  simp only [List.forall_mem_cons]
  exact ⟨.text _, .text _, nofun⟩

theorem stable_ofJson? : Stable ofJson? := by
  refine Json.StableOnFields.record (fun fields kept keeps => ?_) _
  simp only [keeps.required? Json.stable_asText?]

end Step

theorem Json.asSteps?_ofSteps (steps : List Step) : asSteps? (ofSteps steps) = some steps :=
  asList?_array fun step _ => step.ofJson?_toJson

theorem Json.plain_ofSteps (steps : List Step) (room : Nat) : Plain (room + 2) (ofSteps steps) :=
  plain_array fun step _ => step.plain_toJson room

namespace Privilege

def fieldNames : List String :=
  ["component", "service", "action", "scope", "grant_option", "authorizables"]

variable {privilege : Privilege}

theorem draftOfJson?_toJson : draftOfJson? privilege.toJson = some privilege.toDraft := by
  have fields : privilege.toJson.fields? fieldNames = _ := Json.fields?_record rfl (by decide)
  have steps : Json.asList? Step.ofJson? (.array (privilege.steps.map Step.toJson)) = _ :=
    Json.asSteps?_ofSteps privilege.steps
  unfold fieldNames at fields
  simp [draftOfJson?, fields, Json.Fields.required?_cons, Json.Fields.optional?_cons, Json.asText?,
    Json.asOption?_asBool?, steps, toDraft]

/-- A privilege in normal form is read from its JSON form. -/
theorem Normal.ofJson?_toJson (normal : privilege.Normal) :
    ofJson? privilege.toJson = some privilege := by
  rw [ofJson?, draftOfJson?_toJson]
  show privilege.toDraft.build.toOption = _
  rw [normal.build_toDraft]
  rfl

theorem plain_toJson (room : Nat) : Plain (room + 3) privilege.toJson := by
  refine .record rfl (by decide : AreFieldNames fieldNames) ?_
  simp only [List.forall_mem_cons]
  exact ⟨.text _, .text _, .text _, .text _, Json.plain_ofOptionBool _,
    Json.plain_ofSteps privilege.steps room, nofun⟩

theorem stable_draftOfJson? : Stable draftOfJson? := by
  refine Json.StableOnFields.record (fun fields kept keeps => ?_) _
  simp only [keeps.required? Json.stable_asText?, keeps.optional? Json.stable_asBool?,
    keeps.required? Step.stable_ofJson?.asList?]

theorem stable_ofJson? : Stable ofJson? := by
  intro room json plain
  rw [ofJson?, ofJson?, stable_draftOfJson? room json plain]

end Privilege

/-! ### Changes -/

namespace Change

/-- The privilege that a change is about, if it is about one. -/
def privilege? : Change → Option Privilege
  | privilegeGranted _ privilege => some privilege
  | privilegeRevoked _ privilege => some privilege
  | privilegeDropped privilege => some privilege
  | _ => none

theorem areFieldNames (change : Change) :
    AreFieldNames ("type" :: change.parts.2.map Prod.fst) := by
  cases change
  all_goals
    simp only [parts, List.map_cons, List.map_nil]
    decide

theorem plain_parts (change : Change) (room : Nat) :
    ∀ member ∈ change.parts.2, Plain (room + 3) member.2 := by
  have texts : ∀ values : List String, Plain (room + 3) (Json.ofTexts values) :=
    fun values => Json.plain_array fun value _ => .text value
  have steps : ∀ steps : List Step, Plain (room + 3) (Json.ofSteps steps) :=
    fun steps => Json.plain_ofSteps steps (room + 1)
  have privilege : ∀ privilege : Privilege, Plain (room + 3) privilege.toJson :=
    fun privilege => privilege.plain_toJson room
  cases change
  all_goals simp only [parts, List.forall_mem_cons]
  case roleCreated => exact ⟨.text _, nofun⟩
  case roleDropped => exact ⟨.text _, nofun⟩
  case groupsAdded => exact ⟨.text _, texts _, nofun⟩
  case groupsRemoved => exact ⟨.text _, texts _, nofun⟩
  case privilegeGranted => exact ⟨.text _, privilege _, nofun⟩
  case privilegeRevoked => exact ⟨.text _, privilege _, nofun⟩
  case privilegeDropped => exact ⟨privilege _, nofun⟩
  case privilegeRenamed => exact ⟨.text _, .text _, steps _, steps _, nofun⟩

theorem plain_toJson (change : Change) (room : Nat) : Plain (room + 4) change.toJson := by
  refine .record rfl change.areFieldNames ?_
  exact List.forall_mem_cons.2 ⟨.text _, change.plain_parts room⟩

/-! ### Reading the parts of a change -/

theorem asTexts?_ofTexts (values : List String) :
    Json.asTexts? (Json.ofTexts values) = some values :=
  Json.asList?_array fun _ _ => rfl

/-- A change is read from its members, once its kind is known. -/
theorem ofParts?_parts (change : Change)
    (normal : ∀ privilege, change.privilege? = some privilege → privilege.Normal) :
    ofParts? change.parts.1 (.object change.parts.2) = some change := by
  have fields : Json.fields? _ (.object change.parts.2) = _ :=
    Json.fields?_record rfl change.areFieldNames.tail
  have read : ∀ privilege, change.privilege? = some privilege →
      Privilege.ofJson? privilege.toJson = some privilege :=
    fun privilege about => (normal privilege about).ofJson?_toJson
  cases change
  all_goals
    simp only [privilege?, Option.some.injEq, forall_eq', reduceCtorEq, false_implies,
      implies_true] at read
    simp only [parts, List.map_cons, List.map_nil] at fields
    simp [ofParts?, parts, fields, Json.Fields.required?_cons, Json.asText?, asTexts?_ofTexts,
      Json.asSteps?_ofSteps, read]

/-- The members beside the tag are not named like it. -/
theorem ne_type_of_mem_parts (change : Change) {member : String × Json}
    (isMember : member ∈ change.parts.2) : member.1 ≠ "type" := by
  have apart := (List.nodup_cons.1 change.areFieldNames.distinct).1
  exact fun same => apart (same ▸ List.mem_map_of_mem isMember)

theorem ofMembers?_tag (change : Change) :
    Json.ofMembers? ["type"] (("type", .text change.parts.1) :: change.parts.2) =
      some (Json.Fields.given [("type", .text change.parts.1)]) := by
  have fields :
      AreFieldNames ((("type", Json.text change.parts.1) :: change.parts.2).map Prod.fst) :=
    change.areFieldNames
  have others : (change.parts.2.filter fun member => ["type"].contains member.1) = [] := by
    refine List.filter_eq_nil_iff.2 fun member isMember => ?_
    simpa using change.ne_type_of_mem_parts isMember
  rw [← fields.map_spelledMember, Json.ofMembers?_spelled _ fields.distinct, List.filter_cons,
    others]
  rfl

theorem filter_tag (change : Change) :
    ((("type", Json.text change.parts.1) :: change.parts.2).filter fun member =>
      Json.Spelling.decode? member.1 != some "type") = change.parts.2 := by
  have fields :
      AreFieldNames ((("type", Json.text change.parts.1) :: change.parts.2).map Prod.fst) :=
    change.areFieldNames
  have others : (change.parts.2.filter fun member => member.1 != "type") = change.parts.2 := by
    refine List.filter_eq_self.2 fun member isMember => ?_
    simpa using change.ne_type_of_mem_parts isMember
  rw [← fields.map_spelledMember, Json.filter_spelled, List.filter_cons, others]
  exact fields.tail.map_spelledMember

/-- A change whose privileges are in normal form is read from its JSON form. -/
theorem ofJson?_toJson (change : Change)
    (normal : ∀ privilege, change.privilege? = some privilege → privilege.Normal) :
    ofJson? change.toJson = some change := by
  simp only [ofJson?, toJson, ofMembers?_tag, Option.bind_eq_bind, Option.bind_some,
    Json.Fields.required?_cons, if_true, Json.asText?, filter_tag, ofParts?_parts change normal]

/-! ### Reading a change as it is kept -/

theorem ofParts?_stable (kind : String) : Json.StableOnObjects (ofParts? kind) := by
  have stableTexts : Stable Json.asTexts? := Json.stable_asText?.asList?
  have stableSteps : Stable Json.asSteps? := Step.stable_ofJson?.asList?
  unfold ofParts?
  split
  all_goals first
    | exact fun _ _ _ => rfl
    | refine Json.StableOnFields.onObjects (fun fields kept keeps => ?_) _
      simp only [keeps.required? Json.stable_asText?, keeps.required? stableTexts,
        keeps.required? stableSteps, keeps.required? Privilege.stable_ofJson?]

theorem ofJson?_stable : Json.StableOnObjects ofJson? := by
  intro members kept reordered
  obtain ⟨fields, keptFields, given, keptGiven, keeps⟩ := reordered.ofMembers? ["type"]
  simp only [ofJson?, given, keptGiven, Option.bind_eq_bind, Option.bind_some,
    keeps.required? Json.stable_asText?, ofParts?_stable _ _ _ (reordered.filter "type")]

theorem ofJson?_canonical (change : Change) :
    ofJson? change.toJson.canonical = ofJson? change.toJson :=
  ofJson?_stable.canonical (change.plain_toJson 0)

/-! ### Events and texts -/

/-- The payload of the event of a change is what is kept of the change. -/
theorem kept?_toJson (change : Change) (commit : Commit) (requestor : String)
    (occasion : Occasion) :
    change.toJson.kept? Event.maxPayloadDepth =
      some (change.toEvent commit requestor occasion).payload :=
  if_pos (change.plain_toJson _).isSound

theorem ofText?_eq {change : Change} {text : String}
    (isText : Json.read? text = some change.toJson)
    (normal : ∀ privilege, change.privilege? = some privilege → privilege.Normal) :
    ofText? text = some change := by
  have sound : change.toJson.sound? maxDepth = some change.toJson := (change.plain_toJson _).sound?
  simp only [ofText?, isText, Option.bind_eq_bind, Option.bind_some, sound,
    ofJson?_toJson change normal]

/-- Privileges come about in a form that drafts accept and leave as it is. So a change with such
privileges is always published, and it is read from the payload of its event and from its own
text. -/
theorem event_round_trip :
    (∀ privilege : Privilege, privilege.Made → privilege.toDraft.build = .ok privilege) ∧
    ∀ change : Change, (∀ privilege, change.privilege? = some privilege → privilege.Made) →
      ∀ (commit : Commit) (requestor : String) (occasion : Occasion),
        change.toJson.kept? Event.maxPayloadDepth =
          some (change.toEvent commit requestor occasion).payload ∧
        ofJson? (change.toEvent commit requestor occasion).payload = some change ∧
        ofText? change.toJson.compact = some change ∧
        ofText? change.toJson.pretty = some change := by
  refine ⟨fun _ made => made.build_toDraft, fun change made commit requestor occasion => ?_⟩
  have normal : ∀ privilege, change.privilege? = some privilege → privilege.Normal :=
    fun privilege about => (made privilege about).normal
  have plain := change.plain_toJson 0
  refine ⟨change.kept?_toJson commit requestor occasion, ?_, ofText?_eq plain.read?_compact normal,
    ofText?_eq plain.read?_pretty normal⟩
  show ofJson? change.toJson.canonical = _
  rw [change.ofJson?_canonical, change.ofJson?_toJson normal]

/-- A draft with names that lower-casing makes longer, that end in a capital sigma, or that need
escapes where they are written. -/
def foreignDraft : PrivilegeDraft where
  component := "İZMİR"
  service := "ΟΔΟΣ"
  action := "READ"
  scope := "\"\\\x00"
  grantOption := some false
  steps := some [⟨"Shelf", "__NULL_\u212A"⟩, ⟨"", "\u3000A"⟩]

/-- What the draft is made into. -/
def foreignPrivilege : Privilege where
  component := "i\u0307zmi\u0307r"
  service := "οδος"
  action := "read"
  scope := "\"\\\x00"
  grantOption := some false
  steps := [⟨"Shelf", "__null_k"⟩, ⟨"", "\u3000a"⟩]

theorem event_round_trip_foreign :
    foreignDraft.build = .ok foreignPrivilege ∧
    (foreignPrivilege.withAction "ΣΑΣ").toDraft.build = .ok (foreignPrivilege.withAction "ΣΑΣ") ∧
    ofJson? ((privilegeGranted "role\n" (foreignPrivilege.withAction "ΣΑΣ")).toEvent
      ⟨default, 7⟩ "olga" ⟨default, default⟩).payload =
        some (privilegeGranted "role\n" (foreignPrivilege.withAction "ΣΑΣ")) ∧
    ofText? (privilegeGranted "role\n" (foreignPrivilege.withAction "ΣΑΣ")).toJson.compact =
      some (privilegeGranted "role\n" (foreignPrivilege.withAction "ΣΑΣ")) := by
  have built : foreignDraft.build = .ok foreignPrivilege := by decide +kernel
  have made : (foreignPrivilege.withAction "ΣΑΣ").Made := .withAction (.built built) "ΣΑΣ"
  obtain ⟨rebuilt, read⟩ := event_round_trip
  obtain ⟨-, payload, compact, -⟩ :=
    read (privilegeGranted "role\n" (foreignPrivilege.withAction "ΣΑΣ"))
    (fun privilege about => Option.some.inj about ▸ made) ⟨default, 7⟩ "olga" ⟨default, default⟩
  exact ⟨built, rebuilt _ made, payload, compact⟩

end Change

end Entitlement
