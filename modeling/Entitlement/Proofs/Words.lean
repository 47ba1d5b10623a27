/-
This file proves that the ledger of a store can be written. Its written form has words of 64 bits
for the numbers of records and of 32 bits for the tags of paths. The tags that are given out count
the type sequences of a component, and the numbers count up; so a ledger from a file stays within
the words, edit by edit, until the numbers themselves run out.
-/

import Entitlement.Proofs.LedgerText
import Entitlement.Proofs.Numbering

namespace Entitlement

/-! ### Tags -/

namespace Hierarchies.FitsWords

variable {hierarchies : Hierarchies} {component : String} {steps : List Step}

theorem tagFor (fits : hierarchies.FitsWords) {tag : Nat}
    (tagged : hierarchies.tagFor component steps = .ok tag) : tag < Nat.pow 2 32 := by
  obtain ⟨sequences, found, tagged⟩ := bind_eq_ok.1 tagged
  split at tagged
  · rw [← pure_eq_ok.1 tagged]
    decide
  have few : sequences.length < Nat.pow 2 32 := by
    unfold Hierarchies.sequences at found
    split at found
    · next listed =>
      obtain rfl := Except.ok.inj found
      exact fits _ (OrderedMap.get?_eq_some_iff_mem.1 listed)
    · cases found
  split at tagged
  · next index first =>
    rw [← pure_eq_ok.1 tagged]
    obtain ⟨inside, -⟩ := List.findIdx?_eq_some_iff_getElem.1 first
    exact Nat.lt_of_le_of_lt inside few
  · cases tagged

theorem encode {catalogue : Catalogue} (fits : catalogue.hierarchies.FitsWords) {path : StoredPath}
    (encoded : catalogue.encode component steps = .ok path) : path.tag < Nat.pow 2 32 := by
  obtain ⟨tag, _, tagged, -, rfl⟩ := Hierarchies.encode_eq_ok.1 (StoreError.lift_eq_ok.1 encoded)
  exact fits.tagFor tagged

/-- Edits make keys with small tags. -/
theorem keeps {catalogue : Catalogue} (fits : catalogue.hierarchies.FitsWords) :
    catalogue.Keeps fun key => key.path.tag < Nat.pow 2 32 where
  member few _ _ := few
  moved _ _ encoded := fits.encode encoded

end Hierarchies.FitsWords

/-! ### What readers find -/

/-- Every entry of the map of a list is in the list. -/
theorem OrderedMap.mem_of_get?_ofList {Key Value : Type} [Ord Key] [Std.TransOrd Key]
    [Std.LawfulEqOrd Key] {entries : List (Key × Value)} {key : Key} {value : Value}
    (found : (ofList entries).get? key = some value) : (key, value) ∈ entries := by
  revert found
  refine List.foldlRecOn (motive := fun map : OrderedMap Key Value =>
    map.get? key = some value → (key, value) ∈ entries) entries _ ?_ ?_
  · simp
  · intro map earlier entry member found
    rcases get?_insert_eq_some.1 found with ⟨rfl, rfl⟩ | ⟨-, found⟩
    · exact member
    · exact earlier found

namespace Json

theorem mem_of_mapM_eq_some {Item Value : Type} {read : Item → Option Value} {items : List Item}
    {values : List Value} (reads : items.mapM read = some values) :
    ∀ value ∈ values, ∃ item ∈ items, read item = some value := by
  induction items generalizing values with
  | nil =>
    obtain rfl : [] = values := Option.some.inj reads
    exact fun value member => absurd member List.not_mem_nil
  | cons item rest inductionHypothesis =>
    rw [List.mapM_cons, Option.bind_eq_bind, Option.bind_eq_some_iff] at reads
    obtain ⟨first, firstRead, reads⟩ := reads
    obtain ⟨others, othersRead, reads⟩ := Option.bind_eq_some_iff.1 reads
    obtain rfl : first :: others = values := Option.some.inj reads
    intro value member
    rcases List.mem_cons.1 member with rfl | member
    · exact ⟨item, List.mem_cons_self, firstRead⟩
    · obtain ⟨other, isOther, otherRead⟩ := inductionHypothesis othersRead value member
      exact ⟨other, List.mem_cons_of_mem _ isOther, otherRead⟩

theorem read_of_mem_asList? {Value : Type} {read : Json → Option Value} {json : Json}
    {values : List Value} (reads : asList? read json = some values) :
    ∀ value ∈ values, ∃ item, read item = some value := by
  intro value member
  unfold asList? at reads
  split at reads
  · obtain ⟨item, -, isRead⟩ := mem_of_mapM_eq_some reads value member
    exact ⟨item, isRead⟩
  · cases reads

theorem read_of_get?_asMap? {Key Value : Type} [Ord Key] [Std.TransOrd Key] [Std.LawfulEqOrd Key]
    {readKey : String → Option Key} {read : Json → Option Value} {json : Json}
    {map : OrderedMap Key Value} (reads : asMap? readKey read json = some map) {key : Key}
    {value : Value} (found : map.get? key = some value) :
    (∃ name, readKey name = some key) ∧ ∃ item, read item = some value := by
  unfold asMap? at reads
  split at reads
  · obtain ⟨entries, entriesRead, rfl⟩ := Option.map_eq_some_iff.1 reads
    obtain ⟨member, -, isRead⟩ :=
      mem_of_mapM_eq_some entriesRead _ (OrderedMap.mem_of_get?_ofList found)
    obtain ⟨readsKey, keyRead, isRead⟩ := Option.bind_eq_some_iff.1 isRead
    obtain ⟨readsValue, valueRead, isRead⟩ := Option.bind_eq_some_iff.1 isRead
    obtain ⟨rfl, rfl⟩ := Prod.mk.inj (Option.some.inj isRead)
    exact ⟨⟨member.1, keyRead⟩, member.2, valueRead⟩
  · cases reads

theorem lt_of_asBelow? {bound number : Nat} {json : Json}
    (reads : asBelow? bound json = some number) : number < bound := by
  unfold asBelow? at reads
  split at reads
  · split at reads
    · next below => rwa [← Option.some.inj reads]
    · cases reads
  · cases reads

theorem lt_of_word64OfName? {name : String} {number : Nat}
    (reads : word64OfName? name = some number) : number < Nat.pow 2 64 := by
  unfold word64OfName? at reads
  dsimp only at reads
  split at reads
  · next plain =>
    rw [← Option.some.inj reads]
    simp only [Bool.and_eq_true, decide_eq_true_eq] at plain
    exact plain.2
  · cases reads

end Json

theorem StoredPath.tag_of_ofJson? {json : Json} {path : StoredPath}
    (reads : ofJson? json = some path) : path.tag < Nat.pow 2 32 := by
  obtain ⟨fields, -, reads⟩ := Option.bind_eq_some_iff.1 reads
  obtain ⟨tag, tagRead, reads⟩ := Option.bind_eq_some_iff.1 reads
  obtain ⟨slots, -, reads⟩ := Option.bind_eq_some_iff.1 reads
  obtain rfl := Option.some.inj reads
  obtain ⟨value, -, tagRead⟩ := Option.bind_eq_some_iff.1 tagRead
  exact Json.lt_of_asBelow? tagRead

theorem RecordKey.tag_of_ofFields? {fields : Json.Fields} {key : RecordKey}
    (reads : ofFields? fields = some key) : key.path.tag < Nat.pow 2 32 := by
  obtain ⟨component, -, reads⟩ := Option.bind_eq_some_iff.1 reads
  obtain ⟨service, -, reads⟩ := Option.bind_eq_some_iff.1 reads
  obtain ⟨action, -, reads⟩ := Option.bind_eq_some_iff.1 reads
  obtain ⟨scope, -, reads⟩ := Option.bind_eq_some_iff.1 reads
  obtain ⟨grantOption, -, reads⟩ := Option.bind_eq_some_iff.1 reads
  obtain ⟨path, pathRead, reads⟩ := Option.bind_eq_some_iff.1 reads
  obtain rfl := Option.some.inj reads
  obtain ⟨value, -, pathRead⟩ := Option.bind_eq_some_iff.1 pathRead
  exact StoredPath.tag_of_ofJson? pathRead

theorem Record.tag_of_ofJson? {json : Json} {record : Record}
    (reads : ofJson? json = some record) : record.key.path.tag < Nat.pow 2 32 := by
  obtain ⟨sound, -, reads⟩ := Option.bind_eq_some_iff.1 reads
  split at reads
  · obtain ⟨fields, -, reads⟩ := Option.bind_eq_some_iff.1 reads
    obtain ⟨key, keyRead, reads⟩ := Option.bind_eq_some_iff.1 reads
    obtain ⟨grantor, -, reads⟩ := Option.bind_eq_some_iff.1 reads
    obtain ⟨createdAt, -, reads⟩ := Option.bind_eq_some_iff.1 reads
    obtain rfl := Option.some.inj reads
    exact RecordKey.tag_of_ofFields? keyRead
  · cases reads

theorem Holding.record_of_ofJson? {json : Json} {holding : Holding}
    (reads : ofJson? json = some holding) : holding.record < Nat.pow 2 64 := by
  obtain ⟨pair, pairRead, rfl⟩ := Option.map_eq_some_iff.1 reads
  unfold Json.asPair? at pairRead
  split at pairRead
  · obtain ⟨role, -, pairRead⟩ := Option.bind_eq_some_iff.1 pairRead
    obtain ⟨number, numberRead, pairRead⟩ := Option.bind_eq_some_iff.1 pairRead
    obtain rfl := Option.some.inj pairRead
    exact Json.lt_of_asBelow? numberRead
  · cases pairRead

namespace Ledger

/-! ### Numbers -/

/-- A number that fits its word, or that the ledger itself has come to. -/
def Reaches (ledger : Ledger) (number : Nat) : Prop :=
  number < Nat.pow 2 64 ∨ number ≤ ledger.lastRecord

/-- The numbers and tags of a ledger fit the words of its written form, if only the number that
was last given does. -/
structure InWords (ledger : Ledger) : Prop where
  tag : ∀ number record, ledger.record? number = some record →
    record.key.path.tag < Nat.pow 2 32
  record : ∀ number record, ledger.record? number = some record → ledger.Reaches number
  holding : ∀ holding ∈ ledger.holdings, ledger.Reaches holding.record

variable {catalogue : Catalogue} {ledger next : Ledger}

theorem Reaches.mono {number : Nat} (reaches : ledger.Reaches number)
    (counts : ledger.lastRecord ≤ next.lastRecord) : next.Reaches number :=
  reaches.imp_right fun reached => reached.trans counts

namespace InWords

theorem fitsWords (inWords : ledger.InWords) (room : ledger.lastRecord < Nat.pow 2 64) :
    ledger.FitsWords := by
  have fits : ∀ number, ledger.Reaches number → number < Nat.pow 2 64 :=
    fun number reaches => reaches.elim id fun reached => Nat.lt_of_le_of_lt reached room
  refine ⟨fun entry member => ?_, fun holding member => fits _ (inWords.holding holding member),
    room⟩
  have found : ledger.record? entry.1 = some entry.2 := OrderedMap.get?_eq_some_iff_mem.2 member
  exact ⟨fits _ (inWords.record _ _ found), inWords.tag _ _ found⟩

/-! ### Files -/

theorem empty : Ledger.empty.InWords where
  tag _ _ found := by simp [record?, Ledger.empty] at found
  record _ _ found := by simp [record?, Ledger.empty] at found
  holding _ member := absurd member (OrderedSet.not_mem_empty _)

/-- What a file can hold is within the words. -/
theorem of_ofText? {text : String} (reads : ofText? text = some ledger) : ledger.InWords := by
  obtain ⟨json, -, reads⟩ := Option.bind_eq_some_iff.1 reads
  obtain ⟨fields, -, reads⟩ := Option.bind_eq_some_iff.1 reads
  obtain ⟨roles, -, reads⟩ := Option.bind_eq_some_iff.1 reads
  obtain ⟨groups, -, reads⟩ := Option.bind_eq_some_iff.1 reads
  obtain ⟨groupLinks, -, reads⟩ := Option.bind_eq_some_iff.1 reads
  obtain ⟨records, recordsRead, reads⟩ := Option.bind_eq_some_iff.1 reads
  obtain ⟨holdings, holdingsRead, reads⟩ := Option.bind_eq_some_iff.1 reads
  obtain ⟨lastRecord, -, reads⟩ := Option.bind_eq_some_iff.1 reads
  obtain rfl := Option.some.inj reads
  obtain ⟨listedRecords, -, recordsRead⟩ := Option.bind_eq_some_iff.1 recordsRead
  obtain ⟨listedHoldings, -, holdingsRead⟩ := Option.bind_eq_some_iff.1 holdingsRead
  refine ⟨fun number record found => ?_, fun number record found => Or.inl ?_,
    fun holding member => Or.inl ?_⟩
  · obtain ⟨-, item, isRead⟩ := Json.read_of_get?_asMap? recordsRead found
    exact Record.tag_of_ofJson? isRead
  · obtain ⟨⟨name, isRead⟩, -⟩ := Json.read_of_get?_asMap? recordsRead found
    exact Json.lt_of_word64OfName? isRead
  · obtain ⟨item, isRead⟩ :=
      Json.read_of_mem_asList? holdingsRead holding (OrderedSet.mem_ofList.1 member)
    exact Holding.record_of_ofJson? isRead

/-! ### Operations -/

/-- A ledger that follows one within the words, by records whose tags fit, is within the words. -/
theorem of_follows (inWords : ledger.InWords)
    (follows : ledger.Follows (fun key => key.path.tag < Nat.pow 2 32) next) : next.InWords where
  tag := follows.keyed inWords.tag
  record number record found := by
    rcases follows.record number record found with earlier | ⟨-, reached, -⟩
    · exact (inWords.record number record earlier).mono follows.count
    · exact Or.inr reached
  holding holding member := by
    rcases follows.holding holding member with earlier | ⟨record, known⟩ | reached
    · exact (inWords.holding holding earlier).mono follows.count
    · exact (inWords.record holding.record record known).mono follows.count
    · exact Or.inr reached

theorem apply (inWords : ledger.InWords) (fits : catalogue.hierarchies.FitsWords)
    (operation : Operation) : (operation.apply catalogue ledger).ledger.InWords := by
  refine inWords.of_follows (operation.follows fits.keeps inWords.tag ?_)
  cases operation with
  | grant role privilege grantor now =>
    intro key keyed
    obtain ⟨action, path, -, encoded, rfl⟩ := Catalogue.toKey_eq_ok.1 keyed
    exact fits.encode encoded
  | _ => trivial

theorem prune (inWords : ledger.InWords) : ledger.prune.InWords :=
  inWords.of_follows (follows_prune ledger)

end InWords

end Ledger

end Entitlement
