/-
This file says what becomes of a subscriber that is behind by more events than its inbox has room
for. The inbox keeps the newest of them, but the first try to receive after the loss gives no event:
`tryReceive` then looks as if nothing were queued, and `awaitEvent` as if the channel were closed.
Only the tries after it give the events that were kept. So what a subscriber can receive is told by
the events that it has not read (`Happening.unread`) and by how many there is room for.
-/

import Entitlement.Proofs.Detaching
import Mathlib.Data.List.DropRight

namespace Entitlement

/-! ### One inbox -/

namespace Inbox

theorem rtake_of_length_le {Item : Type} {items : List Item} {room : Nat}
    (fits : items.length ≤ room) : items.rtake room = items := by
  rw [List.rtake, Nat.sub_eq_zero_of_le fits, List.drop_zero]

theorem length_rtake {Item : Type} (items : List Item) (room : Nat) :
    (items.rtake room).length = min room items.length := by
  rw [List.rtake, List.length_drop]
  omega

/-- What was not among the newest is not when there is one more. -/
theorem rtake_rtake_concat {Item : Type} (items : List Item) (item : Item) (room : Nat) :
    (items.rtake room ++ [item]).rtake room = (items ++ [item]).rtake room := by
  by_cases fits : items.length ≤ room
  · rw [rtake_of_length_le fits]
  · have kept : (items.rtake room).length = room := by
      rw [length_rtake]
      omega
    have more : items.length + 1 - room = items.length - room + 1 := by omega
    have one : (items ++ [item]).rtake room =
        ((items ++ [item]).drop (items.length - room)).drop 1 := by
      rw [List.drop_drop, List.rtake, List.length_append, List.length_singleton, more]
    rw [one, List.drop_append_of_le_length (Nat.sub_le ..), List.rtake, List.length_append, kept,
      List.length_singleton, Nat.add_sub_cancel_left]
    rfl

variable {room : Nat} {unread : List Event} {inbox : Inbox}

/-- An inbox of an open channel in which the newest of the unread events are queued. -/
structure Keeps (room : Nat) (unread : List Event) (inbox : Inbox) : Prop where
  capacity : inbox.capacity = room
  goesOn : inbox.isClosed = false
  queued : inbox.queued = unread.rtake room
  hasLost : inbox.hasLost = true ↔ room < unread.length

namespace Keeps

theorem ofCapacity (room : Nat) : Keeps room [] (ofCapacity room) where
  capacity := rfl
  goesOn := rfl
  queued := (List.rtake_nil _).symm
  hasLost := by simp [Inbox.ofCapacity]

variable (keeps : Keeps room unread inbox)

include keeps

/-- With one more event there is one more to read, and the oldest is lost if there is no room. -/
theorem push (event : Event) : Keeps room (unread ++ [event]) (inbox.push event) := by
  have length : (inbox.queued ++ [event]).length = min room unread.length + 1 := by
    rw [List.length_append, List.length_singleton, keeps.queued, length_rtake]
  have newest : (inbox.queued ++ [event]).rtake room = (unread ++ [event]).rtake room := by
    rw [keeps.queued, rtake_rtake_concat]
  have one : (unread ++ [event]).length = unread.length + 1 := List.length_append
  unfold Inbox.push
  dsimp only
  split
  · next full =>
    rw [length, keeps.capacity] at full
    refine ⟨keeps.capacity, keeps.goesOn, ?_, ?_⟩
    · rw [← newest, List.rtake, keeps.capacity]
    · rw [one]
      exact iff_of_true rfl (by omega)
  · next fits =>
    rw [keeps.capacity, Nat.not_lt] at fits
    refine ⟨keeps.capacity, keeps.goesOn, ?_, ?_⟩
    · rw [← newest, rtake_of_length_le fits]
    · rw [length] at fits
      rw [keeps.hasLost, one]
      omega

/-- The three outcomes of a try to receive: the loss is told, the oldest event is read, or there is
nothing to read yet. -/
theorem receive_cases :
    (room < unread.length ∧
        ∃ next, inbox.receive = (.lost, next) ∧ Keeps room (unread.rtake room) next) ∨
      (∃ event rest, unread = event :: rest ∧ unread.length ≤ room ∧
        ∃ next, inbox.receive = (.event event, next) ∧ Keeps room rest next) ∨
      (unread = [] ∧ inbox.receive = (.nothingYet, inbox)) := by
  by_cases behind : room < unread.length
  · refine Or.inl ⟨behind, { inbox with hasLost := false }, ?_, keeps.capacity, keeps.goesOn, ?_,
      ?_⟩
    · rw [receive, if_pos (keeps.hasLost.2 behind)]
    · rw [rtake_of_length_le ((length_rtake ..).trans_le (Nat.min_le_left ..))]
      exact keeps.queued
    · rw [length_rtake]
      exact iff_of_false Bool.false_ne_true (by omega)
  · have fits := Nat.not_lt.1 behind
    have kept : inbox.hasLost = false := Bool.eq_false_iff.2 (behind ∘ keeps.hasLost.1)
    have queued := keeps.queued
    rw [rtake_of_length_le fits] at queued
    refine Or.inr ?_
    rcases Inbox.receive_cases kept with ⟨event, rest, isQueue, received⟩ | ⟨empty, received⟩
    · have few : rest.length + 1 ≤ room := by
        rwa [← queued, isQueue, List.length_cons] at fits
      refine Or.inl ⟨event, rest, queued.symm.trans isQueue, fits, _, received, keeps.capacity,
        keeps.goesOn, (rtake_of_length_le (Nat.le_of_succ_le few)).symm, ?_⟩
      exact iff_of_false (kept ▸ Bool.false_ne_true) (Nat.not_lt_of_le (Nat.le_of_succ_le few))
    · refine Or.inr ⟨queued.symm.trans empty, ?_⟩
      rw [received, keeps.goesOn]
      rfl

end Keeps

end Inbox

/-- What is still to be read after a receipt. -/
def Receipt.leaves (room : Nat) (unread : List Event) : Receipt → List Event
  | .event _ => unread.tail
  | .lost => unread.rtake room
  | .nothingYet | .closed => unread

namespace Bus

/-! ### What is not read yet -/

/-- The events that matched the pattern since the subscription and that the subscriber has neither
received nor been told of as lost, the oldest first. -/
def Happening.unread (room number : Nat) (pattern : String) : List Happening → List Event
  | [] => []
  | subscribed other _ :: past => if other = number then [] else unread room number pattern past
  | published event _ :: past =>
    if Topic.isMatch pattern event.topic then unread room number pattern past ++ [event]
    else unread room number pattern past
  | received other receipt :: past =>
    if other = number then receipt.leaves room (unread room number pattern past)
    else unread room number pattern past
  | _ :: past => unread room number pattern past

/-- The event that a request publishes, if it matches the pattern. -/
def Request.matching? (pattern : String) : Request → Option Event
  | publish event => if Topic.isMatch pattern event.topic then some event else none
  | _ => none

variable {room number : Nat} {pattern : String} {past : List Happening} {bus next : Bus}

/-- The inbox of a subscription is there and keeps the newest of its unread events. -/
def Keeps (room number : Nat) (unread : List Event) (bus : Bus) : Prop :=
  ∃ inbox, bus.inboxes.get? number = some inbox ∧ Inbox.Keeps room unread inbox

/-- The three outcomes of a try to receive: the loss is told, the oldest event is read, or there is
nothing to read yet. -/
theorem Keeps.receive_cases {unread : List Event} (keeps : bus.Keeps room number unread) :
    (room < unread.length ∧
        ∃ next, bus.receive number = (.lost, next) ∧
          next.Keeps room number (unread.rtake room)) ∨
      (∃ event rest, unread = event :: rest ∧ unread.length ≤ room ∧
        ∃ next, bus.receive number = (.event event, next) ∧ next.Keeps room number rest) ∨
      (unread = [] ∧
        ∃ next, bus.receive number = (.nothingYet, next) ∧ next.Keeps room number unread) := by
  obtain ⟨inbox, found, kept⟩ := keeps
  rw [receive, found]
  dsimp only
  rcases kept.receive_cases with ⟨behind, left, received, after⟩ |
    ⟨event, rest, queue, fits, left, received, after⟩ | ⟨empty, received⟩
  · rw [received]
    exact Or.inl ⟨behind, _, rfl, left, OrderedMap.get?_insert_self .., after⟩
  · rw [received]
    exact Or.inr (Or.inl ⟨event, rest, queue, fits, _, rfl, left, OrderedMap.get?_insert_self ..,
      after⟩)
  · rw [received]
    exact Or.inr (Or.inr ⟨empty, _, rfl, inbox, OrderedMap.get?_insert_self .., kept⟩)

/-- A bus that keeps what is not read yet for all subscriptions that it feeds. -/
structure Stocked (room : Nat) (past : List Happening) (bus : Bus) : Prop where
  sound : Sound past bus
  capacity : bus.room = room
  keeps : ∀ number pattern, bus.Feeds pattern number →
    bus.Keeps room number (Happening.unread room number pattern past)

namespace Stocked

variable (stocked : Stocked room past bus)

include stocked

/-- What does not concern the inbox of a subscription leaves it as it is. -/
theorem aside {happening : Happening} (fed : bus.Feeds pattern number)
    (unread : Happening.unread room number pattern (happening :: past) =
      Happening.unread room number pattern past)
    (inboxes : next.inboxes.get? number = bus.inboxes.get? number) :
    next.Keeps room number (Happening.unread room number pattern (happening :: past)) := by
  obtain ⟨inbox, found, keeps⟩ := stocked.keeps number pattern fed
  exact ⟨inbox, inboxes.trans found, unread ▸ keeps⟩

/-- A new subscription has nothing to read. -/
theorem subscribe {own : String} {viewer : Nat} (done : bus.subscribe own = .ok (viewer, next))
    (fed : next.Feeds pattern number) :
    next.Keeps room number
      (Happening.unread room number pattern (.subscribed viewer own :: past)) := by
  obtain ⟨rfl, rfl⟩ := subscribe_eq_ok done
  by_cases same : bus.lastSubscription + 1 = number
  · refine ⟨Inbox.ofCapacity bus.room, ?_, ?_⟩
    · exact (OrderedMap.get?_insert_if ..).trans (if_pos same)
    · rw [Happening.unread, if_pos same, stocked.capacity]
      exact .ofCapacity room
  · have before : bus.Feeds pattern number ∨ (pattern = own ∧ number = bus.lastSubscription + 1) :=
      feeds_insert.1 fed
    rcases before with earlier | isNew
    · exact stocked.aside earlier (if_neg same)
        ((OrderedMap.get?_insert_if ..).trans (if_neg same))
    · exact absurd isNew.2.symm same

/-- The channel that is removed with its last subscription does not feed any more. -/
theorem unsubscribe {viewer : Nat} (done : bus.unsubscribe? viewer = some next)
    (fed : next.Feeds pattern number) :
    next.Keeps room number
      (Happening.unread room number pattern (.unsubscribed viewer :: past)) := by
  obtain ⟨own, -, ⟨rfl, -⟩ | ⟨rfl, -⟩⟩ := unsubscribe?_eq_some done
  · exact stocked.aside fed rfl rfl
  · obtain ⟨apart, earlier⟩ := feeds_removeChannel.1 fed
    refine stocked.aside earlier rfl (stocked.sound.get?_removeChannel_of_not_feeds fun feeds => ?_)
    exact apart (stocked.sound.apart number pattern own earlier feeds)

/-- A published event that matches the pattern is one more to read. -/
theorem publish {event : Event} {called : List Handler} (fed : bus.Feeds pattern number) :
    (bus.publish event).2.Keeps room number
      (Happening.unread room number pattern (.published event called :: past)) := by
  obtain ⟨inbox, found, keeps⟩ := stocked.keeps number pattern fed
  have result := stocked.sound.get?_publish event number
  have reached := stocked.sound.mem_inboxesOf_of_feeds fed event.topic
  rw [found, Option.map_some] at result
  by_cases isMatch : Topic.isMatch pattern event.topic = true
  · rw [if_pos (reached.2 isMatch)] at result
    refine ⟨_, result, ?_⟩
    rw [Happening.unread, if_pos isMatch]
    exact keeps.push event
  · rw [if_neg (isMatch ∘ reached.1)] at result
    exact stocked.aside fed (if_neg isMatch) (result.trans found.symm)

/-- A receipt leaves the rest to be read. -/
theorem receive {viewer : Nat} (fed : bus.Feeds pattern number) :
    (bus.receive viewer).2.Keeps room number
      (Happening.unread room number pattern (.received viewer (bus.receive viewer).1 :: past)) := by
  have keeps := stocked.keeps number pattern fed
  by_cases same : viewer = number
  · subst same
    rw [Happening.unread, if_pos rfl]
    rcases keeps.receive_cases with
      ⟨-, left, received, after⟩ | ⟨event, rest, queue, -, left, received, after⟩ |
        ⟨-, left, received, after⟩
    · rw [received]
      exact after
    · rw [received, queue]
      exact after
    · rw [received]
      exact after
  · rcases Bus.receive_cases bus viewer with ⟨-, result⟩ | ⟨other, -, result⟩
    · rw [result]
      exact stocked.aside fed (if_neg same) rfl
    · rw [result]
      exact stocked.aside fed (if_neg same) ((OrderedMap.get?_insert_if ..).trans (if_neg same))

/-- Every request keeps the bus stocked. -/
theorem serve (request : Request) :
    Stocked room ((bus.serve request).1 :: past) (bus.serve request).2 := by
  refine ⟨stocked.sound.serve request, (room_serve ..).trans stocked.capacity, ?_⟩
  cases request with
  | subscribe pattern =>
    simp only [Bus.serve]
    split
    · next done => exact fun _ _ fed => stocked.subscribe done fed
    · exact fun _ _ fed => stocked.aside fed rfl rfl
    · exact fun _ _ fed => stocked.aside fed rfl rfl
  | unsubscribe number =>
    simp only [Bus.serve]
    split
    · next done => exact fun _ _ fed => stocked.unsubscribe done fed
    · exact fun _ _ fed => stocked.aside fed rfl rfl
  | drop number =>
    intro viewer own fed
    obtain ⟨apart, earlier⟩ := feeds_dropInbox.1 fed
    refine stocked.aside earlier rfl ?_
    exact (OrderedMap.get?_erase_if ..).trans (if_neg apart.symm)
  | register handler => exact fun _ _ fed => stocked.aside fed rfl rfl
  | publish event => exact fun _ _ fed => stocked.publish fed
  | receive number =>
    intro viewer own fed
    refine stocked.receive ?_
    obtain ⟨inboxes, result⟩ := exists_receive_eq bus number
    simp only [Bus.serve, result] at fed
    exact fed

/-- After several events there are more to read, those of them that match the pattern. -/
theorem keeps_publishAll (fed : bus.Feeds pattern number) (events : List Event) :
    (bus.publishAll events).Keeps room number
      (Happening.unread room number pattern past ++
        events.filter fun event => Topic.isMatch pattern event.topic) := by
  induction events generalizing bus past with
  | nil =>
    rw [List.filter_nil, List.append_nil]
    exact stocked.keeps number pattern fed
  | cons event rest inductionHypothesis =>
    have later := inductionHypothesis (stocked.serve (.publish event)) fed
    simp only [Bus.serve, Happening.unread] at later
    rw [List.filter_cons]
    split
    · next isMatch =>
      rw [if_pos isMatch, List.append_assoc] at later
      exact later
    · next other =>
      rw [if_neg other] at later
      exact later

end Stocked

/-! ### Many events -/

theorem published_publishAll (bus : Bus) (events : List Event) :
    (bus.publishAll events).stats.published = bus.stats.published + events.length := by
  induction events generalizing bus with
  | nil => rfl
  | cons event rest inductionHypothesis =>
    refine (inductionHypothesis (bus.publish event).2).trans ?_
    rw [List.length_cons, Nat.add_comm rest.length, ← Nat.add_assoc]
    rfl

/-- What events do to a bus on which they are published one after the other. All of them are
counted, and whoever is fed has those to read that match the pattern, in their order and after what
was to be read before. -/
structure Carries (bus : Bus) (events : List Event) (next : Bus) : Prop where
  published : next.stats.published = bus.stats.published + events.length
  reads : ∀ room past number pattern, Stocked room past bus → bus.Feeds pattern number →
    next.Keeps room number (Happening.unread room number pattern past ++
      events.filter fun event => Topic.isMatch pattern event.topic)

theorem carries_publishAll (bus : Bus) (events : List Event) :
    bus.Carries events (bus.publishAll events) where
  published := published_publishAll bus events
  reads _ _ _ _ stocked fed := stocked.keeps_publishAll fed events

theorem stocked_chronicle (capacity : Nat) (requests : List Request) :
    Stocked (powerAtLeast capacity) (chronicle capacity requests).past
      (chronicle capacity requests).bus := by
  let motive (chronicle : Chronicle) :=
    Stocked (powerAtLeast capacity) chronicle.past chronicle.bus
  have start : motive ⟨ofCapacity capacity, []⟩ := by
    refine ⟨Sound.ofCapacity capacity, rfl, ?_⟩
    rintro number pattern ⟨numbers, found, -⟩
    cases found
  exact List.foldlRecOn (motive := motive) requests Chronicle.serve start
    fun _ stocked request _ => stocked.serve request

/-! ### Reading to the end -/

/-- Tries to receive until one gives no event, the events that they give, and the bus after them. -/
inductive Drains (number : Nat) : Bus → List Event → Bus → Prop where
  | nil {bus next : Bus} (ends : bus.tryReceive number = (none, next)) : Drains number bus [] next
  | cons {bus middle next : Bus} {event : Event} {events : List Event}
      (first : bus.tryReceive number = (some event, middle))
      (rest : Drains number middle events next) : Drains number bus (event :: events) next

/-- How a subscription stands whose unread events are given. They are all there to be read unless
they are more than there is room for. In this case the first try gives no event, although the newest
of them are queued, and the tries after it give these. -/
structure Awaits (room number : Nat) (unread : List Event) (bus : Bus) : Prop where
  queued : bus.queued number = unread.rtake room
  tryReceive : (bus.tryReceive number).1 =
    if room < unread.length then none else unread.head?
  awaitEvent : (bus.awaitEvent number).1 =
    if room < unread.length then .error .channelClosed else .ok unread.head?
  drains : unread.length ≤ room → ∃ next, Drains number bus unread next
  drainsLate : room < unread.length → ∃ middle next,
    Drains number bus [] middle ∧ Drains number middle (unread.rtake room) next

namespace Keeps

variable {unread : List Event}

theorem drains (keeps : bus.Keeps room number unread) (fits : unread.length ≤ room) :
    ∃ next, Drains number bus unread next := by
  induction unread generalizing bus with
  | nil =>
    rcases keeps.receive_cases with ⟨behind, -⟩ | ⟨event, rest, queue, -⟩ | ⟨-, next, received, -⟩
    · exact absurd behind (Nat.not_lt_zero room)
    · cases queue
    · refine ⟨next, .nil ?_⟩
      rw [Bus.tryReceive, received]
  | cons event rest inductionHypothesis =>
    rcases keeps.receive_cases with
      ⟨behind, -⟩ | ⟨first, others, queue, -, middle, received, after⟩ | ⟨empty, -⟩
    · exact absurd fits (Nat.not_le_of_lt behind)
    · obtain ⟨rfl, rfl⟩ := List.cons.inj queue
      obtain ⟨next, drains⟩ := inductionHypothesis after (Nat.le_of_succ_le fits)
      refine ⟨next, .cons ?_ drains⟩
      rw [Bus.tryReceive, received]
    · cases empty

theorem answers (keeps : bus.Keeps room number unread) :
    (bus.tryReceive number).1 = (if room < unread.length then none else unread.head?) ∧
      (bus.awaitEvent number).1 =
        if room < unread.length then .error .channelClosed else .ok unread.head? := by
  rw [Bus.tryReceive, Bus.awaitEvent]
  rcases keeps.receive_cases with ⟨behind, next, received, -⟩ |
    ⟨event, rest, queue, fits, next, received, -⟩ | ⟨empty, next, received, -⟩
  · rw [received, if_pos behind, if_pos behind]
    exact ⟨rfl, rfl⟩
  · rw [received, if_neg (Nat.not_lt_of_le fits), if_neg (Nat.not_lt_of_le fits), queue]
    exact ⟨rfl, rfl⟩
  · have fits : ¬room < ([] : List Event).length := Nat.not_lt_zero room
    rw [received, empty, if_neg fits, if_neg fits]
    exact ⟨rfl, rfl⟩

theorem awaits (keeps : bus.Keeps room number unread) : bus.Awaits room number unread where
  queued := by
    obtain ⟨inbox, found, kept⟩ := keeps
    rw [queued_eq found, kept.queued]
  tryReceive := keeps.answers.1
  awaitEvent := keeps.answers.2
  drains fits := keeps.drains fits
  drainsLate behind := by
    rcases keeps.receive_cases with ⟨-, middle, received, after⟩ |
      ⟨event, rest, -, fits, -⟩ | ⟨empty, -⟩
    · have few : (unread.rtake room).length ≤ room :=
        (Inbox.length_rtake ..).trans_le (Nat.min_le_left ..)
      obtain ⟨next, drains⟩ := after.drains few
      refine ⟨middle, next, .nil ?_, drains⟩
      rw [Bus.tryReceive, received]
    · exact absurd behind (Nat.not_lt_of_le fits)
    · rw [empty] at behind
      exact absurd behind (Nat.not_lt_zero room)

end Keeps

/-! ### A bus along its history -/

/-- The capacity is rounded up to a power of two. -/
theorem powerAtLeast_le_iff (number exponent : Nat) :
    powerAtLeast number ≤ Nat.pow 2 exponent ↔ number ≤ Nat.pow 2 exponent := by
  have positive : 1 ≤ Nat.pow 2 exponent := Nat.one_le_two_pow
  unfold powerAtLeast
  split
  · next small => exact iff_of_true positive (small.trans positive)
  · next large =>
    have below : (number - 1).log2 < exponent ↔ number - 1 < Nat.pow 2 exponent :=
      Nat.log2_lt (by omega)
    have monotone : Nat.pow 2 ((number - 1).log2 + 1) ≤ Nat.pow 2 exponent ↔
        (number - 1).log2 + 1 ≤ exponent := Nat.pow_le_pow_iff_right Nat.one_lt_two
    rw [monotone, Nat.succ_le_iff, below]
    omega

theorem exists_powerAtLeast_eq (number : Nat) :
    ∃ exponent, powerAtLeast number = Nat.pow 2 exponent := by
  unfold powerAtLeast
  split
  · exact ⟨0, rfl⟩
  · exact ⟨_, rfl⟩

theorem lastSubscription_le_serve (bus : Bus) (request : Request) :
    bus.lastSubscription ≤ (bus.serve request).2.lastSubscription := by
  cases request with
  | subscribe pattern =>
    simp only [serve]
    split
    · next done =>
      obtain ⟨rfl, rfl⟩ := subscribe_eq_ok done
      exact Nat.le_succ _
    · exact le_rfl
    · exact le_rfl
  | unsubscribe number =>
    simp only [serve]
    split
    · next done =>
      obtain ⟨pattern, -, ⟨rfl, -⟩ | ⟨rfl, -⟩⟩ := unsubscribe?_eq_some done
      · exact le_rfl
      · exact le_rfl
    · exact le_rfl
  | drop | register | publish => exact le_rfl
  | receive number =>
    obtain ⟨inboxes, result⟩ := exists_receive_eq bus number
    simp only [serve, result]
    exact le_rfl

/-- While a subscription does not receive, only what is published for it is added to what it has
not read yet. -/
theorem unread_serve (known : number ≤ bus.lastSubscription) {request : Request}
    (silent : request ≠ .receive number) :
    Happening.unread room number pattern ((bus.serve request).1 :: past) =
      Happening.unread room number pattern past ++ [request].filterMap
        (Request.matching? pattern) := by
  cases request with
  | subscribe own =>
    simp only [serve]
    split
    · next done =>
      obtain ⟨rfl, rfl⟩ := subscribe_eq_ok done
      rw [Happening.unread, if_neg (by omega)]
      exact (List.append_nil _).symm
    · exact (List.append_nil _).symm
    · exact (List.append_nil _).symm
  | unsubscribe viewer =>
    simp only [serve]
    split
    · exact (List.append_nil _).symm
    · exact (List.append_nil _).symm
  | drop | register => exact (List.append_nil _).symm
  | publish event =>
    simp only [serve, Happening.unread, List.filterMap_cons, List.filterMap_nil, Request.matching?]
    split
    · rfl
    · exact (List.append_nil _).symm
  | receive viewer =>
    have apart : viewer ≠ number := fun same => silent (congrArg _ same)
    simp only [serve]
    rw [Happening.unread, if_neg apart]
    exact (List.append_nil _).symm

theorem unread_append {capacity : Nat} {requests further : List Request}
    (known : number ≤ (chronicle capacity requests).bus.lastSubscription)
    (silent : Request.receive number ∉ further) :
    Happening.unread room number pattern (chronicle capacity (requests ++ further)).past =
      Happening.unread room number pattern (chronicle capacity requests).past ++
        further.filterMap (Request.matching? pattern) := by
  induction further generalizing requests with
  | nil => rw [List.append_nil, List.filterMap_nil, List.append_nil]
  | cons request rest inductionHypothesis =>
    obtain ⟨notNow, notLater⟩ := not_or.1 (List.mem_cons.not.1 silent)
    have step := chronicle_concat capacity requests request
    have knownNext :
        number ≤ (chronicle capacity (requests ++ [request])).bus.lastSubscription := by
      rw [step]
      exact known.trans (lastSubscription_le_serve ..)
    rw [List.append_cons, inductionHypothesis knownNext notLater, step, Chronicle.serve,
      unread_serve known (Ne.symm notNow), List.append_assoc, ← List.filterMap_append]
    rfl

/-- A subscription on an open channel that does not receive for a while has to read, besides what it
has not read before, what is published for it. If this is more than the capacity, rounded up to a
power of two, the oldest are lost. The loss is told once, as an event that is not there or as the
end of the channel, and then the newest events are read. -/
theorem lagging_told_once {capacity : Nat} {requests further : List Request}
    (fed : (chronicle capacity requests).bus.Feeds pattern number)
    (stillFed : (chronicle capacity (requests ++ further)).bus.Feeds pattern number)
    (silent : Request.receive number ∉ further) :
    let room := powerAtLeast capacity
    let before := Happening.unread room number pattern (chronicle capacity requests).past
    (∃ exponent, room = Nat.pow 2 exponent) ∧
      (∀ exponent, room ≤ Nat.pow 2 exponent ↔ capacity ≤ Nat.pow 2 exponent) ∧
      Awaits room number (before ++ further.filterMap (Request.matching? pattern))
        (chronicle capacity (requests ++ further)).bus := by
  have known := (stocked_chronicle capacity requests).sound.boundedChannels number pattern fed
  have keeps := (stocked_chronicle capacity (requests ++ further)).keeps number pattern stillFed
  rw [unread_append known silent] at keeps
  exact ⟨exists_powerAtLeast_eq capacity, powerAtLeast_le_iff capacity, keeps.awaits⟩

/-- Of two events for which there was one place the first is lost, and then a try gives none. -/
theorem lagging_told_once_for_two :
    ∃ (requests further : List Request) (first second : Event),
      (chronicle 1 requests).bus.Feeds "role.*" 1 ∧
      (chronicle 1 (requests ++ further)).bus.Feeds "role.*" 1 ∧
      [first.topic, second.topic] = ["role.created", "role.dropped"] ∧
      Awaits 1 1 [first, second] (chronicle 1 (requests ++ further)).bus := by
  let event (topic : String) : Event :=
    ⟨default, topic, ⟨default, 1⟩, "admin", default, 1, .null⟩
  let requests : List Request := [.subscribe "role.*"]
  let further : List Request := [.publish (event "role.created"), .subscribe "role.*",
    .publish (event "group.added"), .publish (event "role.dropped")]
  have fed : (chronicle 1 requests).bus.Feeds "role.*" 1 := ⟨[1], by decide +kernel⟩
  have stillFed : (chronicle 1 (requests ++ further)).bus.Feeds "role.*" 1 :=
    ⟨[1, 2], by decide +kernel⟩
  have silent : Request.receive 1 ∉ further := by simp [further]
  have matching : further.filterMap (Request.matching? "role.*") =
      [event "role.created", event "role.dropped"] := by
    have created : Topic.isMatch "role.*" "role.created" = true := by decide +kernel
    have added : Topic.isMatch "role.*" "group.added" = false := by decide +kernel
    have dropped : Topic.isMatch "role.*" "role.dropped" = true := by decide +kernel
    simp [further, event, List.filterMap_cons, Request.matching?, created, added, dropped]
  obtain ⟨-, -, awaits⟩ := lagging_told_once fed stillFed silent
  rw [matching] at awaits
  exact ⟨requests, further, event "role.created", event "role.dropped", fed, stillFed, rfl, awaits⟩

/-- Where one event is lost and the next one is queued, a try to receive gives none, and to wait for
an event fails as if the channel were closed. -/
theorem lag_hides_queue :
    ∃ requests : List Request,
      let bus := (chronicle 1 requests).bus
      bus.Feeds "role.*" 1 ∧
      (bus.inboxes.get? 1).map Inbox.isClosed = some false ∧
      (bus.queued 1).map Event.topic = ["role.dropped"] ∧
      (bus.tryReceive 1).1 = none ∧
      (bus.awaitEvent 1).1 = .error .channelClosed ∧
      ∃ next, Drains 1 bus [] next := by
  let event (topic : String) : Event :=
    ⟨default, topic, ⟨default, 1⟩, "admin", default, 1, .null⟩
  let requests : List Request :=
    [.subscribe "role.*", .publish (event "role.created"), .publish (event "role.dropped")]
  have fed : (chronicle 1 requests).bus.Feeds "role.*" 1 := ⟨[1], by decide +kernel⟩
  have behind : 1 < (Happening.unread 1 1 "role.*" (chronicle 1 requests).past).length := by
    decide +kernel
  have awaits := ((stocked_chronicle 1 requests).keeps 1 "role.*" fed).awaits
  obtain ⟨next, -, drains, -⟩ := awaits.drainsLate behind
  refine ⟨requests, fed, ?_, ?_, awaits.tryReceive.trans (if_pos behind),
    awaits.awaitEvent.trans (if_pos behind), next, drains⟩
  · decide +kernel
  · decide +kernel

end Bus

end Entitlement
