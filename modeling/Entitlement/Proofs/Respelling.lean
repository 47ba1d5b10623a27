/-
This file proves that the spelling of role and group names makes no difference. Two runs are
compared, call by call, in which the same is asked for with names in other spellings -- in the
calls, in the admin groups and in the directory -- at other times and under other identifiers. The
replies are the same, the events tell the same, and the committed ledgers differ in times alone.

Two arguments come together. In one store, a call comes to the same as the call with its names in
their normal form, however often these are normalized on the way. And the same call comes to the
same in stores that resemble each other.
-/

import Entitlement.Proofs.Authorization
import Entitlement.Proofs.Resemblance

namespace Entitlement

/-! ### Calls with names in normal form -/

theorem normalizeAll_map_normalize (names : List String) :
    normalizeAll (names.map Text.normalize) = normalizeAll names := by
  unfold normalizeAll
  rw [List.map_map]
  exact congrArg OrderedSet.ofList
    (List.map_congr_left fun name _ => Text.normalize_normalize name)

/-- The change with the names of roles and groups in normal form. -/
def Mutation.normalized : Mutation → Mutation
  | createRole role => createRole (Text.normalize role)
  | dropRole role => dropRole (Text.normalize role)
  | addGroups role groups => addGroups (Text.normalize role) (groups.map Text.normalize)
  | removeGroups role groups => removeGroups (Text.normalize role) (groups.map Text.normalize)
  | grant role privilege => grant (Text.normalize role) privilege
  | revoke role privilege => revoke (Text.normalize role) privilege
  | drop privilege => drop privilege
  | rename component service old new => rename component service old new

theorem Mutation.perform_normalized (mutation : Mutation) (store : Store) (requestor : String)
    (occasion : Occasion) :
    mutation.normalized.perform store requestor occasion =
      mutation.perform store requestor occasion := by
  cases mutation <;>
    simp only [normalized, perform, Store.createRole, Store.dropRole, Store.addGroups,
      Store.removeGroups, Store.grant, Store.revoke, Text.normalize_normalize,
      normalizeAll_map_normalize]

/-- The query with the names of roles and groups in normal form. -/
def Query.normalized : Query → Query
  | rolesOfGroups groups => rolesOfGroups (groups.map Text.normalize)
  | groupsOfRoles roles => groupsOfRoles (roles.map Text.normalize)
  | privilegesOfRoles roles => privilegesOfRoles (roles.map Text.normalize)
  | privilegesOfService component service roles groups steps =>
    privilegesOfService component service (roles.map Text.normalize) (groups.map Text.normalize)
      steps

theorem Query.ask_normalized (query : Query) (store : Store) :
    query.normalized.ask store = query.ask store := by
  have named : ∀ ledger roles groups,
      Store.namedRoles ledger (roles.map Text.normalize) (groups.map Text.normalize) =
        Store.namedRoles ledger roles groups := by
    intro ledger roles groups
    simp only [Store.namedRoles, List.isEmpty_map, normalizeAll_map_normalize,
      Ledger.rolesOfGroups]
  cases query <;>
    simp only [normalized, ask, Store.rolesOfGroups, Store.groupsOfRoles, Store.privilegesOfRoles,
      Store.privilegesOfService, Ledger.rolesOfGroups, Ledger.groupsOfRoles, named,
      normalizeAll_map_normalize]

/-- Whether a call asks for the same as another, up to the spelling of role and group names, at
whatever time and under whatever identifier. -/
def Call.Respells : Call → Call → Prop
  | .mutation first requestor _, .mutation second otherRequestor _ =>
    first.normalized = second.normalized ∧ requestor = otherRequestor
  | .query first, .query second => first.normalized = second.normalized
  | _, _ => False

/-! ### Settings with names in other spellings -/

/-- The entry of a directory with the names of the user and of the groups in normal form. -/
def normalizedEntry (entry : String × List String) : String × List String :=
  (Text.normalize entry.1, entry.2.map Text.normalize)

theorem listsGroup_iff_normalizedEntry {users : List (String × List String)}
    {user group : String} :
    ListsGroup users user group ↔
      ∃ entry ∈ users.map normalizedEntry, entry.1 = Text.normalize user ∧ group ∈ entry.2 := by
  simp only [ListsGroup, normalizedEntry, List.mem_map, exists_exists_and_eq_and]

theorem GroupSource.GoesBy.groupsOf_eq {source : GroupSource}
    {users : List (String × List String)} (goes : source.GoesBy users) (user : String) :
    source.groupsOf user = ((GroupDirectory.ofList users).groupsOf user).elements := by
  cases source with
  | listed directory =>
    refine congrArg OrderedSet.elements (OrderedSet.ext_mem fun group => ?_)
    exact goes.mem_groupsOf.trans GroupDirectory.mem_groupsOf_ofList.symm
  | unreachable =>
    obtain rfl : users = [] := goes
    rfl

/-- Two stores in the same state, up to times of rows and texts of files, whose settings are the
same up to the spelling of the names in the admin groups and in the directory. -/
structure Store.Respells (store other : Store) : Prop where
  vault : store.vault.outline = other.vault.outline
  catalogue : store.catalogue = other.catalogue
  sequence : store.sequence = other.sequence
  admins : ∃ names others, store.adminGroups = normalizeAll names ∧
    other.adminGroups = normalizeAll others ∧
    names.map Text.normalize = others.map Text.normalize
  users : ∃ entries others, store.groups.GoesBy entries ∧ other.groups.GoesBy others ∧
    entries.map normalizedEntry = others.map normalizedEntry

theorem Store.Respells.resembles {store other : Store} (respells : store.Respells other) :
    store.Resembles other := by
  refine ⟨respells.vault, respells.catalogue, ?_, fun user => ?_, respells.sequence⟩
  · obtain ⟨names, others, isNames, isOthers, same⟩ := respells.admins
    rw [isNames, isOthers, normalizeAll, normalizeAll, same]
  · obtain ⟨entries, others, goes, otherGoes, same⟩ := respells.users
    rw [goes.groupsOf_eq, otherGoes.groupsOf_eq]
    refine congrArg OrderedSet.elements (OrderedSet.ext_mem fun group => ?_)
    rw [GroupDirectory.mem_groupsOf_ofList, GroupDirectory.mem_groupsOf_ofList,
      listsGroup_iff_normalizedEntry, listsGroup_iff_normalizedEntry, same]

/-! ### One call -/

/-- Two turns that come to the same. The replies are equal up to the servers, and just equal if
these are the same; the same is announced, up to identifiers, times and servers; and the committed
ledgers differ in times alone. -/
structure Turn.Matches (turn twin : Turn) : Prop where
  reply : turn.reply.anonymous = twin.reply.anonymous
  sameServer : turn.before.server = twin.before.server → turn.reply = twin.reply
  announced : turn.announced.map Event.anonymous = twin.announced.map Event.anonymous
  committed : turn.after.vault.committed.undated = twin.after.vault.committed.undated

theorem Reply.eq_of_anonymous_eq {reply other : Reply} {server : Uuid}
    (same : reply.anonymous = other.anonymous)
    (made : ∀ commit, reply = .made (.ok commit) → commit.server = server)
    (otherMade : ∀ commit, other = .made (.ok commit) → commit.server = server) :
    reply = other := by
  cases reply with
  | found answer =>
    cases other with
    | found => exact same
    | made => cases same
  | made answer =>
    cases other with
    | found => cases same
    | made otherAnswer =>
      rcases cases_of_map_eq_map (Reply.made.inj same) with ⟨reason, rfl, rfl⟩ |
        ⟨commit, otherCommit, rfl, rfl, sameCommit⟩
      · rfl
      · have servers := (made commit rfl).trans (otherMade otherCommit rfl).symm
        have numbers := congrArg Commit.sequence sameCommit
        cases commit
        cases otherCommit
        cases servers
        cases numbers
        rfl

namespace Store

theorem server_of_made (store : Store) (call : Call) :
    (store.turn call).before.server = store.server ∧
      ∀ commit, (store.turn call).reply = .made (.ok commit) → commit.server = store.server := by
  cases call with
  | query query => exact ⟨rfl, fun commit made => by cases made⟩
  | mutation mutation requestor occasion =>
    have result := store.performed mutation requestor occasion
    simp only [Store.turn]
    generalize mutation.perform store requestor occasion = outcome at result
    refine ⟨rfl, fun commit made => ?_⟩
    cases result with
    | refused => cases made
    | committed => cases made; rfl

/-- A call in another spelling comes to the same in a store that resembles the other. -/
theorem Resembles.turn {store other : Store} (resembles : store.Resembles other)
    {call respelled : Call} (respells : call.Respells respelled) :
    (store.turn call).Matches (other.turn respelled) ∧
      (store.turn call).after.Resembles (other.turn respelled).after := by
  have servers : (store.turn call).reply.anonymous = (other.turn respelled).reply.anonymous →
      (store.turn call).before.server = (other.turn respelled).before.server →
      (store.turn call).reply = (other.turn respelled).reply := by
    intro same sameServer
    obtain ⟨before, made⟩ := store.server_of_made call
    obtain ⟨otherBefore, otherMade⟩ := other.server_of_made respelled
    rw [before, otherBefore] at sameServer
    exact Reply.eq_of_anonymous_eq same made (sameServer ▸ otherMade)
  cases call with
  | query query =>
    cases respelled with
    | mutation => exact respells.elim
    | query otherQuery =>
      have same : query.ask store = otherQuery.ask other := by
        rw [← query.ask_normalized, show query.normalized = otherQuery.normalized from respells,
          otherQuery.ask_normalized, resembles.query]
      have reply := congrArg (fun answer => (Reply.found answer).anonymous) same
      exact ⟨⟨reply, servers reply, rfl, resembles.committed⟩, resembles⟩
  | mutation mutation requestor occasion =>
    cases respelled with
    | query => exact respells.elim
    | mutation otherMutation otherRequestor otherOccasion =>
      obtain ⟨sameMutation, rfl⟩ := respells
      have outcomes := resembles.perform mutation requestor occasion otherOccasion
      rw [← mutation.perform_normalized other, sameMutation,
        otherMutation.perform_normalized other] at outcomes
      have reply := congrArg Reply.made outcomes.answer
      exact ⟨⟨reply, servers reply, outcomes.announced, outcomes.store.committed⟩, outcomes.store⟩

end Store

/-! ### Whole runs -/

/-- Two runs side by side, in which each call respells the one beside it. Whatever happens to the
two vaults before a call, it does not make them differ more than in times of rows and texts of files
if they did not before. -/
inductive SideBySide : Store → Store → List Turn → List Turn → Prop where
  | nil (store other : Store) : SideBySide store other [] []
  | cons {store other : Store} {turns twins : List Turn} (vault twin : Vault)
      {call respelled : Call}
      (moved : Vault.KeepsCommitted store.vault vault)
      (twinMoved : Vault.KeepsCommitted other.vault twin)
      (alike : store.vault.outline = other.vault.outline → vault.outline = twin.outline)
      (respells : call.Respells respelled)
      (rest : SideBySide ({ store with vault := vault }.turn call).after
        ({ other with vault := twin }.turn respelled).after turns twins) :
      SideBySide store other ({ store with vault := vault }.turn call :: turns)
        ({ other with vault := twin }.turn respelled :: twins)

/-- The turns of a store that is called several times while nothing else happens. -/
def Store.turns (store : Store) : List Call → List Turn
  | [] => []
  | call :: rest => store.turn call :: (store.turn call).after.turns rest

theorem SideBySide.ofCalls {calls others : List Call}
    (respells : List.Forall₂ Call.Respells calls others) (store other : Store) :
    SideBySide store other (store.turns calls) (other.turns others) := by
  induction respells generalizing store other with
  | nil => exact .nil store other
  | @cons call respelled _ _ first _ inductionHypothesis =>
    exact .cons store.vault other.vault rfl rfl id first
      (inductionHypothesis (store.turn call).after (other.turn respelled).after)

theorem SideBySide.forall₂_matches {store other : Store} {turns twins : List Turn}
    (beside : SideBySide store other turns twins) (resembles : store.Resembles other) :
    List.Forall₂ Turn.Matches turns twins := by
  induction beside with
  | nil => exact .nil
  | cons vault twin _ _ alike respells _ inductionHypothesis =>
    obtain ⟨matched, later⟩ := (resembles.withVaults (alike resembles.vault)).turn respells
    exact .cons matched (inductionHypothesis later)

/-- In two stores whose settings respell each other, calls that respell each other come to the
same, one by one: if nothing else happens, and if what happens between two calls happens to both
stores alike. -/
theorem run_respelled {store other : Store} (respells : store.Respells other) :
    (∀ {calls others : List Call}, List.Forall₂ Call.Respells calls others →
      List.Forall₂ Turn.Matches (store.turns calls) (other.turns others)) ∧
    ∀ {turns twins : List Turn}, SideBySide store other turns twins →
      List.Forall₂ Turn.Matches turns twins :=
  ⟨fun calls => (SideBySide.ofCalls calls store other).forall₂_matches respells.resembles,
    fun beside => beside.forall₂_matches respells.resembles⟩

/-- The store of the library on another server, with its names in other spellings. -/
def respelledLibrary : Store :=
  { libraryStore with
    adminGroups := normalizeAll [" ADMINS"]
    groups := .listed (GroupDirectory.ofList [("Olga ", ["Admins"])])
    server := ⟨List.replicate 32 1, by decide⟩ }

/-- Two changes, a refusal, a grant by a member of an admin group and a query, in two spellings and
at two times. -/
theorem run_respelled_library :
    libraryStore.Respells respelledLibrary ∧ ∃ calls others : List Call,
      List.Forall₂ Call.Respells calls others ∧
        (libraryStore.turns calls).map (fun turn => turn.commit?.isSome) =
          [true, true, false, true, false] ∧
        List.Forall₂ Turn.Matches (libraryStore.turns calls) (respelledLibrary.turns others) := by
  have respells : libraryStore.Respells respelledLibrary := by
    refine ⟨rfl, rfl, rfl, ⟨["admins"], [" ADMINS"], ?_, rfl, ?_⟩,
      ⟨[("olga", ["admins"])], [("Olga ", ["Admins"])], ⟨_, .refl _, rfl⟩, ⟨_, .refl _, rfl⟩, ?_⟩⟩
    · decide +kernel
    · decide +kernel
    · decide +kernel
  let midnight : Occasion := ⟨default, default⟩
  let noon : Occasion := ⟨{ (default : Timestamp) with hour := 12, valid := by decide }, default⟩
  let read : BuiltPrivilege := ⟨libraryPrivilege "read", (libraryPrivilege "read").toDraft, rfl⟩
  let calls : List Call :=
    [.mutation (.createRole "clerks") "olga" midnight,
      .mutation (.addGroups "clerks" ["staff", "night"]) "olga" midnight,
      .mutation (.createRole "clerks") "olga" midnight,
      .mutation (.grant "clerks" read) "olga" midnight,
      .query (.privilegesOfService "library" "lending" [] ["staff"] [])]
  let others : List Call :=
    [.mutation (.createRole " Clerks") "olga" noon,
      .mutation (.addGroups "CLERKS" ["Staff ", "NIGHT"]) "olga" noon,
      .mutation (.createRole "clerks ") "olga" noon,
      .mutation (.grant "Clerks" read) "olga" noon,
      .query (.privilegesOfService "library" "lending" [] ["STAFF"] [])]
  have respelled : List.Forall₂ Call.Respells calls others := by
    have clerks : ∀ role ∈ [" Clerks", "CLERKS", "clerks ", "Clerks"],
        Text.normalize "clerks" = Text.normalize role := by decide +kernel
    have groups : ["staff", "night"].map Text.normalize =
        ["Staff ", "NIGHT"].map Text.normalize := by decide +kernel
    have staff : ["staff"].map Text.normalize = ["STAFF"].map Text.normalize := by decide +kernel
    refine .cons ⟨?_, rfl⟩ (.cons ⟨?_, rfl⟩ (.cons ⟨?_, rfl⟩ (.cons ⟨?_, rfl⟩ (.cons ?_ .nil))))
    · exact congrArg Mutation.createRole (clerks " Clerks" (by simp))
    · exact congrArg₂ Mutation.addGroups (clerks "CLERKS" (by simp)) groups
    · exact congrArg Mutation.createRole (clerks "clerks " (by simp))
    · exact congrArg (Mutation.grant · read) (clerks "Clerks" (by simp))
    · exact congrArg (Query.privilegesOfService "library" "lending" [] · []) staff
  refine ⟨respells, calls, others, respelled, ?_, (run_respelled respells).1 respelled⟩
  decide +kernel

end Entitlement
