/-
This file proves that a bus delivers. A subscriber that is never behind by more than the capacity
gets the events of its pattern in the order of their publication, and none of them twice, whatever
others do with the same bus. Along its history the inbox holds just what the subscriber still has to
get (`Bus.Complete`): another subscription may share its channel or end, but as long as it is open
itself its channel stays and feeds its inbox once for each event.
-/

import Entitlement.Proofs.Broadcasting
import Mathlib.Data.List.Infix

namespace Entitlement

/-! ### Inboxes that lose nothing -/

namespace Inbox

theorem push_of_room {inbox : Inbox} (room : inbox.queued.length < inbox.capacity)
    (event : Event) : inbox.push event = { inbox with queued := inbox.queued ++ [event] } := by
  unfold push
  dsimp only
  rw [if_neg]
  rw [List.length_append, List.length_singleton]
  omega

/-- Receiving from an inbox that has lost nothing gives the oldest event, if there is one. -/
theorem receive_cases {inbox : Inbox} (kept : inbox.hasLost = false) :
    (∃ event rest, inbox.queued = event :: rest ∧
      inbox.receive = (.event event, { inbox with queued := rest })) ∨
      inbox.queued = [] ∧
        inbox.receive = (if inbox.isClosed then .closed else .nothingYet, inbox) := by
  unfold receive
  rw [kept, if_neg Bool.false_ne_true]
  cases inbox.queued with
  | nil => exact Or.inr ⟨rfl, rfl⟩
  | cons event rest => exact Or.inl ⟨event, rest, rfl, rfl⟩

end Inbox

namespace Bus

theorem le_powerAtLeast (number : Nat) : number ≤ powerAtLeast number := by
  unfold powerAtLeast
  split
  · assumption
  · have below : number - 1 < 2 ^ ((number - 1).log2 + 1) := Nat.lt_log2_self
    exact Nat.le_of_pred_lt below

/-! ### Subscribers that keep up -/

namespace Happening

/-- Whether a subscriber was never behind by more events than its inbox has room for. -/
def KeepsUp (capacity number : Nat) (past : List Happening) : Prop :=
  ∀ earlier ∈ past.tails, ∀ pattern ∈ open? number earlier,
    (wanted number pattern earlier).length ≤ (got number earlier).length + capacity

instance (capacity number : Nat) (past : List Happening) :
    Decidable (KeepsUp capacity number past) := by
  unfold KeepsUp
  infer_instance

variable {capacity number : Nat} {happening : Happening} {past : List Happening}

theorem KeepsUp.tail (keepsUp : KeepsUp capacity number (happening :: past)) :
    KeepsUp capacity number past := by
  intro earlier isEarlier
  refine keepsUp earlier ?_
  rw [List.tails_cons]
  exact List.mem_cons_of_mem _ isEarlier

theorem KeepsUp.head (keepsUp : KeepsUp capacity number past) {pattern : String}
    (isOpen : open? number past = some pattern) :
    (wanted number pattern past).length ≤ (got number past).length + capacity :=
  keepsUp past ((List.mem_tails _ _).2 (List.suffix_refl past)) pattern isOpen

theorem got_received_of_ne {other : Nat} (apart : other ≠ number) (receipt : Receipt)
    (past : List Happening) : got number (received other receipt :: past) = got number past := by
  cases receipt with
  | event event => exact if_neg apart
  | lost => rfl
  | nothingYet => rfl
  | closed => rfl

end Happening

/-! ### The invariant -/

/-- An inbox that was never overrun: what its subscriber got and what is queued are all the events
that it wants. -/
structure Complete (capacity number : Nat) (pattern : String) (past : List Happening)
    (inbox : Inbox) : Prop where
  room : inbox.capacity = capacity
  kept : inbox.hasLost = false
  goesOn : inbox.isClosed = false
  inOrder : Happening.got number past ++ inbox.queued = Happening.wanted number pattern past

/-- What is received next from a complete inbox. -/
theorem Complete.receive {capacity number : Nat} {pattern : String} {past : List Happening}
    {bus : Bus} {inbox : Inbox} (complete : Complete capacity number pattern past inbox)
    (found : bus.inboxes.get? number = some inbox) :
    (bus.receive number).1 = inbox.queued.head?.elim .nothingYet .event := by
  rw [Bus.receive, found]
  show inbox.receive.1 = _
  rcases Inbox.receive_cases complete.kept with ⟨event, rest, queued, received⟩ | ⟨empty, received⟩
  · rw [received, queued]
    rfl
  · rw [received, empty, complete.goesOn]
    rfl

/-- The inbox of a subscription is there and was never overrun. -/
def Supplies (capacity number : Nat) (pattern : String) (past : List Happening) (bus : Bus) : Prop :=
  ∃ inbox, bus.inboxes.get? number = some inbox ∧ Complete capacity number pattern past inbox

/-- A bus in which the inboxes of all subscribers that keep up are complete. -/
structure Orderly (capacity : Nat) (past : List Happening) (bus : Bus) : Prop where
  sound : Sound past bus
  room : bus.room = capacity
  supplies : ∀ number pattern, Happening.open? number past = some pattern →
    Happening.KeepsUp capacity number past → bus.Supplies capacity number pattern past

theorem capacity_serve (bus : Bus) (request : Request) :
    (bus.serve request).2.capacity = bus.capacity := by
  cases request with
  | subscribe pattern =>
    simp only [serve]
    split
    · next done => rw [(subscribe_eq_ok done).2]
    · rfl
    · rfl
  | unsubscribe number =>
    simp only [serve]
    split
    · next done =>
      obtain ⟨pattern, -, ⟨rfl, -⟩ | ⟨rfl, -⟩⟩ := unsubscribe?_eq_some done
      · rfl
      · rfl
    · rfl
  | drop number => rfl
  | register handler => rfl
  | publish event => rfl
  | receive number =>
    obtain ⟨inboxes, result⟩ := exists_receive_eq bus number
    simp only [serve, result]

theorem room_serve (bus : Bus) (request : Request) : (bus.serve request).2.room = bus.room :=
  congrArg powerAtLeast (capacity_serve bus request)

namespace Orderly

variable {capacity number viewer : Nat} {pattern own : String} {past : List Happening}
  {bus next : Bus} (orderly : Orderly capacity past bus)

include orderly

/-- What is silent to a subscriber and leaves its inbox alone keeps the inbox complete. -/
theorem aside {happening : Happening} (isOpen : Happening.open? viewer past = some own)
    (keepsUp : Happening.KeepsUp capacity viewer (happening :: past))
    (wanted : Happening.wanted viewer own (happening :: past) = Happening.wanted viewer own past)
    (got : Happening.got viewer (happening :: past) = Happening.got viewer past)
    (inboxes : next.inboxes.get? viewer = bus.inboxes.get? viewer) :
    next.Supplies capacity viewer own (happening :: past) := by
  obtain ⟨inbox, found, complete⟩ := orderly.supplies viewer own isOpen keepsUp.tail
  refine ⟨inbox, inboxes.trans found, complete.room, complete.kept, complete.goesOn, ?_⟩
  rw [got, wanted]
  exact complete.inOrder

/-- A new subscription has an empty inbox and wants nothing yet. -/
theorem subscribe (done : bus.subscribe pattern = .ok (number, next))
    (isOpen : Happening.open? viewer (.subscribed number pattern :: past) = some own)
    (keepsUp : Happening.KeepsUp capacity viewer (.subscribed number pattern :: past)) :
    next.Supplies capacity viewer own (.subscribed number pattern :: past) := by
  have inboxes : next.inboxes = bus.inboxes.insert number (Inbox.ofCapacity bus.room) := by
    rw [(subscribe_eq_ok done).2]
  by_cases same : number = viewer
  · refine ⟨Inbox.ofCapacity bus.room, ?_, orderly.room, rfl, rfl, ?_⟩
    · rw [inboxes, OrderedMap.get?_insert_if, if_pos same]
    · rw [Happening.got, Happening.wanted, if_pos same, if_pos same]
      rfl
  · rw [Happening.open?, if_neg same] at isOpen
    refine orderly.aside isOpen keepsUp (if_neg same) (if_neg same) ?_
    rw [inboxes, OrderedMap.get?_insert_if, if_neg same]

/-- The channel that is removed with its last subscription feeds no open one. -/
theorem unsubscribe (done : bus.unsubscribe? number = some next)
    (isOpen : Happening.open? viewer (.unsubscribed number :: past) = some own)
    (keepsUp : Happening.KeepsUp capacity viewer (.unsubscribed number :: past)) :
    next.Supplies capacity viewer own (.unsubscribed number :: past) := by
  obtain ⟨apart, isOpen⟩ := Option.ite_none_left_eq_some.1 isOpen
  refine orderly.aside isOpen keepsUp rfl rfl ?_
  obtain ⟨pattern, -, ⟨rfl, -⟩ | ⟨rfl, none⟩⟩ := unsubscribe?_eq_some done
  · rfl
  · refine orderly.sound.get?_removeChannel_of_not_feeds fun feeds => ?_
    obtain rfl := orderly.sound.apart viewer pattern own feeds
      (orderly.sound.fed viewer own isOpen)
    exact none viewer (OrderedMap.get?_erase_eq_some.2
      ⟨Ne.symm apart, orderly.sound.subscribed viewer pattern isOpen⟩)

/-- A published event comes to the inbox of a subscriber if it matches the pattern, and there is
room for it as long as the subscriber keeps up. -/
theorem publish {event : Event} {called : List Handler}
    (isOpen : Happening.open? viewer past = some own)
    (keepsUp : Happening.KeepsUp capacity viewer (.published event called :: past)) :
    (bus.publish event).2.Supplies capacity viewer own (.published event called :: past) := by
  obtain ⟨inbox, found, complete⟩ := orderly.supplies viewer own isOpen keepsUp.tail
  have result := orderly.sound.get?_publish event viewer
  rw [found, Option.map_some] at result
  by_cases isMatch : Topic.isMatch own event.topic = true
  · have wanted : Happening.wanted viewer own (.published event called :: past) =
        Happening.got viewer past ++ (inbox.queued ++ [event]) := by
      rw [Happening.wanted, if_pos isMatch, ← complete.inOrder, List.append_assoc]
    have room : inbox.queued.length < inbox.capacity := by
      have bounded : _ ≤ (Happening.got viewer past).length + capacity := keepsUp.head isOpen
      rw [wanted, List.length_append, List.length_append, List.length_singleton] at bounded
      rw [complete.room]
      omega
    rw [if_pos ((orderly.sound.mem_inboxesOf_iff isOpen _).2 isMatch),
      Inbox.push_of_room room] at result
    exact ⟨_, result, complete.room, complete.kept, complete.goesOn, wanted.symm⟩
  · rw [if_neg fun member => isMatch ((orderly.sound.mem_inboxesOf_iff isOpen _).1 member)] at result
    exact orderly.aside isOpen keepsUp (if_neg isMatch) rfl (result.trans found.symm)

/-- What a subscriber receives is the first of what is queued. -/
theorem receive (isOpen : Happening.open? viewer past = some own)
    (keepsUp : Happening.KeepsUp capacity viewer
      (.received number (bus.receive number).1 :: past)) :
    (bus.receive number).2.Supplies capacity viewer own
      (.received number (bus.receive number).1 :: past) := by
  rcases Bus.receive_cases bus number with ⟨-, result⟩ | ⟨inbox, found, result⟩
  · rw [result] at keepsUp ⊢
    exact orderly.aside isOpen keepsUp rfl rfl rfl
  rw [result] at keepsUp ⊢
  by_cases same : number = viewer
  · subst same
    obtain ⟨_, isInbox, complete⟩ := orderly.supplies number own isOpen keepsUp.tail
    obtain rfl := Option.some.inj (found.symm.trans isInbox)
    refine ⟨inbox.receive.2, OrderedMap.get?_insert_self .., ?_⟩
    rcases Inbox.receive_cases complete.kept with ⟨event, rest, queued, received⟩ | ⟨-, received⟩
    · rw [received]
      refine ⟨complete.room, complete.kept, complete.goesOn, ?_⟩
      have inOrder := complete.inOrder
      rw [queued] at inOrder
      rw [Happening.got, if_pos rfl, List.append_assoc]
      exact inOrder
    · rw [received, complete.goesOn, if_neg Bool.false_ne_true]
      exact ⟨complete.room, complete.kept, complete.goesOn, complete.inOrder⟩
  · refine orderly.aside isOpen keepsUp rfl (Happening.got_received_of_ne same _ past) ?_
    exact (OrderedMap.get?_insert_if ..).trans (if_neg same)

/-- Every request keeps the inboxes of all subscribers that keep up complete. -/
theorem serve (request : Request) :
    Orderly capacity ((bus.serve request).1 :: past) (bus.serve request).2 := by
  refine ⟨orderly.sound.serve request, (room_serve ..).trans orderly.room, ?_⟩
  cases request with
  | subscribe pattern =>
    simp only [Bus.serve]
    split
    · next done => exact fun _ _ isOpen keepsUp => orderly.subscribe done isOpen keepsUp
    · exact fun _ _ isOpen keepsUp => orderly.aside isOpen keepsUp rfl rfl rfl
    · exact fun _ _ isOpen keepsUp => orderly.aside isOpen keepsUp rfl rfl rfl
  | unsubscribe number =>
    simp only [Bus.serve]
    split
    · next done => exact fun _ _ isOpen keepsUp => orderly.unsubscribe done isOpen keepsUp
    · exact fun _ _ isOpen keepsUp => orderly.aside isOpen keepsUp rfl rfl rfl
  | drop number =>
    intro viewer own isOpen keepsUp
    obtain ⟨apart, isOpen⟩ := Option.ite_none_left_eq_some.1 isOpen
    refine orderly.aside isOpen keepsUp rfl rfl ?_
    exact (OrderedMap.get?_erase_if ..).trans (if_neg apart)
  | register handler => exact fun _ _ isOpen keepsUp => orderly.aside isOpen keepsUp rfl rfl rfl
  | publish event => exact fun _ _ isOpen keepsUp => orderly.publish isOpen keepsUp
  | receive number => exact fun _ _ isOpen keepsUp => orderly.receive isOpen keepsUp

end Orderly

/-! ### A bus along its history -/

/-- A bus and what has come of the requests to it so far. -/
structure Chronicle where
  bus : Bus
  past : List Happening

def Chronicle.serve (chronicle : Chronicle) (request : Request) : Chronicle where
  bus := (chronicle.bus.serve request).2
  past := (chronicle.bus.serve request).1 :: chronicle.past

/-- A new bus after it has been asked for all that is listed. -/
def chronicle (capacity : Nat) (requests : List Request) : Chronicle :=
  requests.foldl Chronicle.serve ⟨ofCapacity capacity, []⟩

/-- What the publication of an event brings about, and which inboxes it reaches. -/
structure Publication (past : List Happening) (bus : Bus) (event : Event) (reached : List Nat)
    (called : List Handler) (next : Bus) : Prop where
  served : bus.serve (.publish event) = (.published event called, next)
  /-- Each registered handler is called once if one of its topics matches. -/
  calls : called = (Happening.handlers past).filter fun handler => handler.wants event.topic
  distinct : reached.Nodup
  listens : ∀ number ∈ reached, (bus.inboxes.get? number).isSome = true
  reaches : ∀ number pattern, Happening.open? number past = some pattern →
    (number ∈ reached ↔ Topic.isMatch pattern event.topic = true)
  /-- The event comes once to each inbox that is reached, and all others stay as they are. -/
  comes : ∀ number, next.inboxes.get? number = (bus.inboxes.get? number).map fun inbox =>
    if number ∈ reached then inbox.push event else inbox
  published : next.stats.published = bus.stats.published + 1
  delivered : next.stats.delivered = bus.stats.delivered + reached.length + called.length

/-- A bus that brings events where they belong, as its history tells. -/
structure Delivers (capacity : Nat) (past : List Happening) (bus : Bus) : Prop where
  roomy : capacity ≤ bus.room
  /-- Whoever subscribes has a subscription of their own, if there can be channels at all. -/
  subscribes : isCapacity capacity = true → ∀ pattern, pattern.isEmpty = false → ∃ number next,
    bus.serve (.subscribe pattern) = (.subscribed number pattern, next) ∧
      Happening.open? number past = none
  /-- What an open subscription got and what is queued for it is what was published for it, unless
  it was once behind by more events than there is room for. What is queued comes next. -/
  inOrder : ∀ number pattern, Happening.open? number past = some pattern →
    Happening.KeepsUp bus.room number past →
    ∃ inbox, bus.inboxes.get? number = some inbox ∧
      Happening.got number past ++ inbox.queued = Happening.wanted number pattern past ∧
      (bus.receive number).1 = inbox.queued.head?.elim .nothingYet .event
  publishes : ∀ event, ∃ reached called next, Publication past bus event reached called next

/-- The next subscription is not one that is open. -/
theorem Sound.subscribes {past : List Happening} {bus : Bus} (sound : Sound past bus)
    (opens : isCapacity bus.capacity = true) {pattern : String} (named : pattern.isEmpty = false) :
    ∃ number next, bus.serve (.subscribe pattern) = (.subscribed number pattern, next) ∧
      Happening.open? number past = none := by
  rcases bus.subscribe_cases pattern with ⟨empty, -⟩ | ⟨-, -, closed, -⟩ |
    ⟨-, -, number, next, done⟩
  · rw [String.isEmpty_iff.2 empty] at named
    cases named
  · rw [closed] at opens
    cases opens
  · refine ⟨number, next, by rw [Bus.serve, done], ?_⟩
    obtain ⟨rfl, -⟩ := subscribe_eq_ok done
    rw [Option.eq_none_iff_forall_ne_some]
    intro other isOpen
    have bounded := sound.boundedSubscriptions _ other (sound.subscribed _ other isOpen)
    exact Nat.not_succ_le_self _ bounded

theorem Sound.publication {past : List Happening} {bus : Bus} (sound : Sound past bus)
    (event : Event) : Publication past bus event (bus.inboxesOf event.topic)
      (bus.publish event).1 (bus.publish event).2 where
  served := rfl
  calls := congrArg (List.filter _) sound.handlers
  distinct := sound.nodup_inboxesOf event.topic
  listens number member := by
    obtain ⟨pattern, -, feeds⟩ := mem_inboxesOf.1 member
    exact sound.listens number pattern feeds
  reaches _ _ isOpen := sound.mem_inboxesOf_iff isOpen event.topic
  comes := sound.get?_publish event
  published := rfl
  delivered := rfl

theorem capacity_chronicle (capacity : Nat) (requests : List Request) :
    (chronicle capacity requests).bus.capacity = capacity := by
  let motive (chronicle : Chronicle) := chronicle.bus.capacity = capacity
  have start : motive ⟨ofCapacity capacity, []⟩ := rfl
  exact List.foldlRecOn (motive := motive) requests Chronicle.serve start
    fun chronicle same request _ => (capacity_serve chronicle.bus request).trans same

theorem orderly_chronicle (capacity : Nat) (requests : List Request) :
    Orderly (powerAtLeast capacity) (chronicle capacity requests).past
      (chronicle capacity requests).bus := by
  let motive (chronicle : Chronicle) :=
    Orderly (powerAtLeast capacity) chronicle.past chronicle.bus
  have start : motive ⟨ofCapacity capacity, []⟩ := by
    refine ⟨Sound.ofCapacity capacity, rfl, fun number pattern isOpen => ?_⟩
    cases isOpen
  exact List.foldlRecOn (motive := motive) requests Chronicle.serve start
    fun _ orderly request _ => orderly.serve request

/-- Whatever a bus is asked to do, and in whatever order, it brings events where they belong. -/
theorem events_delivered (capacity : Nat) (requests : List Request) :
    Delivers capacity (chronicle capacity requests).past (chronicle capacity requests).bus := by
  have orderly := orderly_chronicle capacity requests
  have asked := capacity_chronicle capacity requests
  constructor
  case roomy =>
    rw [orderly.room]
    exact le_powerAtLeast capacity
  case subscribes =>
    exact fun opens pattern named => orderly.sound.subscribes (asked.symm ▸ opens) named
  case inOrder =>
    intro number pattern isOpen keepsUp
    rw [orderly.room] at keepsUp
    obtain ⟨inbox, found, complete⟩ := orderly.supplies number pattern isOpen keepsUp
    exact ⟨inbox, found, complete.inOrder, complete.receive found⟩
  case publishes => exact fun event => ⟨_, _, _, orderly.sound.publication event⟩

/-- The first of two subscribers to one pattern loses nothing when the second gives up, nor when the
third, whose pattern overlaps with theirs, falls behind and goes away. -/
theorem events_delivered_to_sharer :
    ∃ (requests : List Request) (inbox : Inbox),
      (chronicle 1 requests).bus.room = 1 ∧
      Happening.KeepsUp (chronicle 1 requests).bus.room 1 (chronicle 1 requests).past ∧
      ¬Happening.KeepsUp (chronicle 1 requests).bus.room 3 (chronicle 1 requests).past ∧
      (chronicle 1 requests).bus.stats = ⟨3, 9, 2, 1⟩ ∧
      (chronicle 1 requests).bus.inboxes.get? 1 = some inbox ∧
      (Happening.got 1 (chronicle 1 requests).past).map Event.topic = ["role.created"] ∧
      inbox.queued.map Event.topic = ["role.dropped"] := by
  let event (topic : String) : Event :=
    ⟨default, topic, ⟨default, 1⟩, "admin", default, 1, .null⟩
  let requests : List Request := [.subscribe "role.*", .subscribe "role.*", .subscribe "#",
    .register ⟨"audit", ["role.*", "#"]⟩, .publish (event "role.created"), .unsubscribe 2,
    .publish (event "group.added"), .receive 1, .drop 3, .publish (event "role.dropped")]
  have facts : Happening.open? 1 (chronicle 1 requests).past = some "role.*" ∧
      (chronicle 1 requests).bus.room = 1 ∧
      Happening.KeepsUp (chronicle 1 requests).bus.room 1 (chronicle 1 requests).past ∧
      ¬Happening.KeepsUp (chronicle 1 requests).bus.room 3 (chronicle 1 requests).past ∧
      (chronicle 1 requests).bus.stats = ⟨3, 9, 2, 1⟩ ∧
      (Happening.got 1 (chronicle 1 requests).past).map Event.topic = ["role.created"] ∧
      (Happening.wanted 1 "role.*" (chronicle 1 requests).past).map Event.topic =
        ["role.created", "role.dropped"] := by
    decide +kernel
  obtain ⟨isOpen, room, keepsUp, fallsBehind, stats, got, wanted⟩ := facts
  obtain ⟨inbox, found, inOrder, -⟩ := (events_delivered 1 requests).inOrder 1 "role.*" isOpen
    keepsUp
  refine ⟨requests, inbox, room, keepsUp, fallsBehind, stats, found, got, ?_⟩
  rw [← inOrder, List.map_append, got] at wanted
  exact List.append_cancel_left wanted

end Bus

end Entitlement
