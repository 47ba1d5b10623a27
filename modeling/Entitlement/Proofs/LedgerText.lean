/-
This file proves that a ledger is read from its own text. The words of the format bound the numbers
of records and the tags of paths; everything else is free: names of any characters, privileges with
their three answers to whether they may be passed on, links in any number, and rows that are not
linked to anything.
-/

import Entitlement.Proofs.JsonFields

namespace Entitlement

open Json (Plain AreFieldNames)

/-! ### Paths -/

namespace StoredPath

theorem slotsOfJson?_names (slots : Slots) :
    slotsOfJson? (.array (slots.names.map Json.text)) = some slots := by
  have names : Json.asList? Json.asText? (.array (slots.names.map Json.text)) = some slots.names :=
    Json.asList?_array fun _ _ => rfl
  simp only [slotsOfJson?, names, Option.bind_eq_bind, Option.bind_some, slots.full]
  rfl

variable {path : StoredPath} (fits : path.tag < Nat.pow 2 32)

include fits

theorem ofJson?_toJson : ofJson? path.toJson = some path := by
  have fields : path.toJson.fields? ["tag", "slots"] = _ := Json.fields?_record rfl (by decide)
  simp [ofJson?, fields, Json.Fields.required?_cons, Json.asWord32?_natural fits,
    slotsOfJson?_names]

theorem plain_toJson (room : Nat) : Plain (room + 2) path.toJson := by
  refine .record rfl (by decide : AreFieldNames ["tag", "slots"]) ?_
  have word : path.tag < Nat.pow 2 64 := Nat.lt_trans fits (by decide)
  simp only [List.forall_mem_cons]
  exact ⟨Json.plain_natural word, Json.plain_array fun name _ => .text name, nofun⟩

end StoredPath

/-! ### Rows -/

namespace NameRow

theorem ofJson?_toJson (row : NameRow) : ofJson? row.toJson = some row := by
  have fields : row.toJson.fields? ["name", "created_at"] = _ := Json.fields?_record rfl (by decide)
  simp [ofJson?, fields, Json.Fields.required?_cons, Json.asText?, Json.asTimestamp?_ofTimestamp]

theorem plain_toJson (row : NameRow) (room : Nat) : Plain (room + 1) row.toJson := by
  refine .record rfl (by decide : AreFieldNames ["name", "created_at"]) ?_
  simp only [List.forall_mem_cons]
  exact ⟨.text _, .text _, nofun⟩

end NameRow

theorem GroupLink.ofJson?_toJson (link : GroupLink) : ofJson? link.toJson = some link :=
  rfl

theorem GroupLink.plain_toJson (link : GroupLink) (room : Nat) : Plain (room + 1) link.toJson := by
  refine .array ?_
  simp only [List.forall_mem_cons]
  exact ⟨.text _, .text _, nofun⟩

theorem Holding.ofJson?_toJson {holding : Holding} (fits : holding.record < Nat.pow 2 64) :
    ofJson? holding.toJson = some holding := by
  simp [ofJson?, toJson, Json.asPair?, Json.asText?, Json.asWord64?_natural fits]

theorem Holding.plain_toJson {holding : Holding} (fits : holding.record < Nat.pow 2 64)
    (room : Nat) :
    Plain (room + 1) holding.toJson := by
  refine .array ?_
  simp only [List.forall_mem_cons]
  exact ⟨.text _, Json.plain_natural fits, nofun⟩

/-! ### Records -/

namespace Record

variable {record : Record} (fits : record.key.path.tag < Nat.pow 2 32)

theorem areFieldNames : AreFieldNames (RecordKey.fieldNames ++ ["grantor", "created_at"]) := by
  decide

include fits

theorem plain_toJson (room : Nat) : Plain (room + 3) record.toJson := by
  refine .record rfl areFieldNames ?_
  simp only [RecordKey.members, List.cons_append, List.nil_append, List.forall_mem_cons]
  exact ⟨.text _, .text _, .text _, .text _, Json.plain_ofOptionBool _,
    StoredPath.plain_toJson fits room,
    .text _, .text _, nofun⟩

theorem ofJson?_toJson : ofJson? record.toJson = some record := by
  have sound : record.toJson.sound? maxDepth = some record.toJson := (plain_toJson fits _).sound?
  have fields : Json.ofMembers? (RecordKey.fieldNames ++ ["grantor", "created_at"])
      (record.key.members ++ [("grantor", .text record.grantor),
        ("created_at", Json.ofTimestamp record.createdAt)]) = _ :=
    Json.ofMembers?_record rfl areFieldNames
  rw [ofJson?, sound]
  simp only [toJson, ofMembers?, Option.bind_eq_bind, Option.bind_some, fields]
  simp [RecordKey.ofFields?, RecordKey.members, Json.Fields.required?_cons,
    Json.Fields.optional?_cons, Json.asText?, Json.asOption?_asBool?,
    StoredPath.ofJson?_toJson fits, Json.asTimestamp?_ofTimestamp]

end Record

/-! ### Numbers as names -/

namespace Ledger

theorem isPlain_of_isDigit {character : Char} (digit : character.isDigit = true) :
    Json.Spelling.isPlain character = true := by
  have range : 48 ≤ character.toNat ∧ character.toNat ≤ 57 := by
    simpa [Char.isDigit, UInt32.le_iff_toNat_le] using digit
  have noMark : character ≠ '"' ∧ character ≠ '\\' := by
    constructor
    all_goals
      rintro rfl
      exact absurd digit (by decide)
  simp only [Json.Spelling.isPlain, Bool.and_eq_true, bne_iff_ne, decide_eq_true_eq]
  exact ⟨noMark, by omega⟩

theorem numberName_spelled (number : Nat) :
    numberName number = Json.Spelling.encode (numberName number) := by
  refine (Json.Spelling.encode_of_isPlain (List.all_eq_true.2 fun digit member => ?_)).symm
  rw [numberName, String.toList_ofList] at member
  exact isPlain_of_isDigit (Json.isDigit_of_mem_toDigits number digit member)

theorem word64OfName?_numberName {number : Nat} (fits : number < Nat.pow 2 64) :
    Json.word64OfName? (numberName number) = some number := by
  have digits : (Nat.toDigits 10 number).all Char.isDigit = true :=
    List.all_eq_true.2 (Json.isDigit_of_mem_toDigits number)
  simp [Json.word64OfName?, numberName, Json.isWhole_toDigits, digits, Json.value_toDigits, fits]

theorem numberName_injective : Function.Injective numberName := by
  intro left right same
  have values := congrArg (fun name => Json.Numeral.value name.toList) same
  simpa [numberName, Json.value_toDigits] using values

/-! ### The ledger -/

/-- The numbers and tags of a ledger fit the words of its written form. -/
structure FitsWords (ledger : Ledger) : Prop where
  records : ∀ entry ∈ ledger.records.entries,
    entry.1 < Nat.pow 2 64 ∧ entry.2.key.path.tag < Nat.pow 2 32
  holdings : ∀ holding ∈ ledger.holdings, holding.record < Nat.pow 2 64
  lastRecord : ledger.lastRecord < Nat.pow 2 64

variable {ledger : Ledger}

def fieldNames : List String :=
  ["roles", "groups", "role_groups", "privileges", "role_privileges", "next_privilege_id"]

theorem plain_rows (rows : OrderedMap String NameRow) (room : Nat) :
    Plain (room + 2) (Json.ofMap Json.Spelling.encode NameRow.toJson rows) :=
  Json.plain_ofMap Function.injective_id (fun _ => rfl) fun entry _ => entry.2.plain_toJson room

theorem asMap?_rows (rows : OrderedMap String NameRow) :
    Json.asMap? Json.Spelling.decode? NameRow.ofJson?
      (Json.ofMap Json.Spelling.encode NameRow.toJson rows) = some rows :=
  Json.asMap?_ofMap fun entry _ =>
    ⟨Json.Spelling.decode?_encode entry.1, entry.2.ofJson?_toJson⟩

namespace FitsWords

variable (fits : ledger.FitsWords)

include fits

theorem plain_toJson : Plain 5 ledger.toJson := by
  refine .record rfl (by decide : AreFieldNames fieldNames) ?_
  simp only [List.forall_mem_cons]
  exact ⟨plain_rows _ 2, plain_rows _ 2, Json.plain_array fun link _ => link.plain_toJson 2,
    Json.plain_ofMap numberName_injective numberName_spelled fun entry member =>
      Record.plain_toJson (fits.records entry member).2 0,
    Json.plain_array fun holding member => Holding.plain_toJson (fits.holdings holding member) 2,
    Json.plain_natural fits.lastRecord, nofun⟩

theorem ofJson?_toJson : ofJson? ledger.toJson = some ledger := by
  have fields : ledger.toJson.fields? fieldNames = _ := Json.fields?_record rfl (by decide)
  have groupLinks : Json.asList? GroupLink.ofJson?
      (.array (ledger.groupLinks.elements.map GroupLink.toJson)) = _ :=
    Json.asList?_array fun link _ => link.ofJson?_toJson
  have records : Json.asMap? Json.word64OfName? Record.ofJson?
      (Json.ofMap numberName Record.toJson ledger.records) = some ledger.records :=
    Json.asMap?_ofMap fun entry member =>
      ⟨word64OfName?_numberName (fits.records entry member).1,
        Record.ofJson?_toJson (fits.records entry member).2⟩
  have holdings : Json.asList? Holding.ofJson?
      (.array (ledger.holdings.elements.map Holding.toJson)) = _ :=
    Json.asList?_array fun holding member => Holding.ofJson?_toJson (fits.holdings holding member)
  unfold fieldNames at fields
  simp [ofJson?, fields, Json.Fields.required?_cons, asMap?_rows, groupLinks, records, holdings,
    Json.asWord64?_natural fits.lastRecord, OrderedSet.ofList_elements]

/-- A ledger is read from the text that a file holds. -/
theorem ofText?_prettyText : ofText? ledger.prettyText = some ledger := by
  rw [ofText?, prettyText, fits.plain_toJson.read?_pretty, Option.bind_some, fits.ofJson?_toJson]

theorem ofText?_compactText : ofText? ledger.compactText = some ledger := by
  rw [ofText?, compactText, fits.plain_toJson.read?_compact, Option.bind_some, fits.ofJson?_toJson]

end FitsWords

/-- A ledger is read from its own text in both forms. -/
theorem text_round_trip (fits : ledger.FitsWords) :
    ofText? ledger.compactText = some ledger ∧ ofText? ledger.prettyText = some ledger :=
  ⟨fits.ofText?_compactText, fits.ofText?_prettyText⟩

/-- A record of an archive with a path of one step. -/
def archiveRecord (action : String) (grantOption : Option Bool) : Record where
  key := {
    component := "a\"b\\c"
    service := "\x01\t\x7f"
    action := action
    scope := "𝄞\u2028"
    grantOption := grantOption
    path := ⟨0xFFFFFFFF, Slots.ofNames ["shelf"] (by decide)⟩ }
  grantor := ""
  createdAt := default

/-- An archive whose names are full of marks and controls, with the last numbers that fit and with
rows that nothing links. -/
def archiveLedger : Ledger where
  roles := OrderedMap.ofList [("keeper", ⟨"Keeper\n", default⟩), ("", ⟨"\\u0041", default⟩)]
  groups := OrderedMap.ofList [("\x00", ⟨"é", default⟩)]
  groupLinks := OrderedSet.ofList [⟨"keeper", "\x00"⟩, ⟨"nobody", "/"⟩]
  records := OrderedMap.ofList [(0, archiveRecord "read" none),
    (18446744073709551615, archiveRecord "write" (some true)), (10, archiveRecord "" (some false))]
  holdings := OrderedSet.ofList [⟨"keeper", 18446744073709551615⟩, ⟨"nobody", 7⟩]
  lastRecord := 18446744073709551615

theorem text_round_trip_archive : archiveLedger.FitsWords ∧
    ofText? archiveLedger.compactText = some archiveLedger ∧
      ofText? archiveLedger.prettyText = some archiveLedger := by
  have fits : archiveLedger.FitsWords :=
    ⟨by decide +kernel, by decide +kernel, by decide +kernel⟩
  exact ⟨fits, text_round_trip fits⟩

end Ledger

end Entitlement
