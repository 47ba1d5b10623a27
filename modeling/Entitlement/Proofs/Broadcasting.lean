/-
This file says what can be asked of a bus, how the history of a bus is read, and which inboxes a bus
feeds. Subscriptions to one pattern share a channel, which is there from the first of them on until
none is left, and each number stands in one channel at most. So a subscription keeps its place
whatever others do (`Bus.Sound`), and an event comes to each inbox once, by whatever number of
patterns it is matched.
-/

import Entitlement.Bus.Basic
import Entitlement.Proofs.Ordered

namespace Entitlement

namespace Bus

/-! ### Requests and what comes of them -/

/-- What a bus can be asked to do. -/
inductive Request where
  | subscribe (pattern : String)
  | unsubscribe (number : Nat)
  /-- The receiver of a subscription is dropped. -/
  | drop (number : Nat)
  | register (handler : Handler)
  | publish (event : Event)
  | receive (number : Nat)

/-- What came of a request. -/
inductive Happening where
  | subscribed (number : Nat) (pattern : String)
  | refused (reason : BusError)
  /-- A call to subscribe did not return. -/
  | stopped (pattern : String)
  | unsubscribed (number : Nat)
  /-- There was no such subscription. -/
  | unknown (number : Nat)
  | dropped (number : Nat)
  | registered (handler : Handler)
  | published (event : Event) (called : List Handler)
  | received (number : Nat) (receipt : Receipt)

/-- What comes of a request, and the bus after it. -/
def serve (bus : Bus) : Request → Happening × Bus
  | .subscribe pattern =>
    match bus.subscribe pattern with
    | .ok (number, next) => (.subscribed number pattern, next)
    | .error (.refused reason) => (.refused reason, bus)
    | .error .noChannel => (.stopped pattern, bus)
  | .unsubscribe number =>
    match bus.unsubscribe? number with
    | some next => (.unsubscribed number, next)
    | none => (.unknown number, bus)
  | .drop number => (.dropped number, bus.dropInbox number)
  | .register handler => (.registered handler, bus.addHandler handler)
  | .publish event => (.published event (bus.publish event).1, (bus.publish event).2)
  | .receive number => (.received number (bus.receive number).1, (bus.receive number).2)

/-- The bus after events have been published on it, the first of them first. -/
def publishAll (bus : Bus) (events : List Event) : Bus :=
  events.foldl (fun bus event => (bus.publish event).2) bus

/-! ### Reading a history -/

namespace Happening

/-- The registered handlers in their order. -/
def handlers : List Happening → List Handler
  | [] => []
  | registered handler :: past => handlers past ++ [handler]
  | _ :: past => handlers past

/-- The pattern of a subscription that was not given up and whose receiver was not dropped. -/
def open? (number : Nat) : List Happening → Option String
  | [] => none
  | subscribed other pattern :: past => if other = number then some pattern else open? number past
  | unsubscribed other :: past => if other = number then none else open? number past
  | dropped other :: past => if other = number then none else open? number past
  | _ :: past => open? number past

/-- The events published since the subscription that match the pattern, the oldest first. -/
def wanted (number : Nat) (pattern : String) : List Happening → List Event
  | [] => []
  | subscribed other _ :: past => if other = number then [] else wanted number pattern past
  | published event _ :: past =>
    if Topic.isMatch pattern event.topic then wanted number pattern past ++ [event]
    else wanted number pattern past
  | _ :: past => wanted number pattern past

/-- The events received since the subscription, the oldest first. -/
def got (number : Nat) : List Happening → List Event
  | [] => []
  | subscribed other _ :: past => if other = number then [] else got number past
  | received other (.event event) :: past =>
    if other = number then got number past ++ [event] else got number past
  | _ :: past => got number past

end Happening

/-! ### Inboxes that are changed together -/

/-- A change of the inboxes of some numbers changes each of them once. -/
theorem get?_foldl_change (change : Inbox → Inbox) {numbers : List Nat}
    (distinct : numbers.Nodup) (inboxes : OrderedMap Nat Inbox) (number : Nat) :
    (numbers.foldl (fun inboxes number =>
        match inboxes.get? number with
        | some inbox => inboxes.insert number (change inbox)
        | none => inboxes) inboxes).get? number =
      (inboxes.get? number).map fun inbox => if number ∈ numbers then change inbox else inbox := by
  induction numbers generalizing inboxes with
  | nil => simp
  | cons first rest inductionHypothesis =>
    obtain ⟨apart, distinctRest⟩ := List.nodup_cons.1 distinct
    rw [List.foldl_cons, inductionHypothesis distinctRest]
    cases found : inboxes.get? first with
    | none =>
      by_cases same : first = number
      · rw [← same, found]
        rfl
      · simp [Ne.symm same]
    | some inbox =>
      dsimp only
      rw [OrderedMap.get?_insert_if]
      by_cases same : first = number
      · rw [if_pos same, ← same, found]
        simp [apart]
      · rw [if_neg same]
        simp [Ne.symm same]

/-! ### Channels -/

variable {bus next : Bus} {pattern : String} {number : Nat}

/-- Whether the events that match the pattern come to the inbox. -/
def Feeds (bus : Bus) (pattern : String) (number : Nat) : Prop :=
  ∃ numbers, bus.channels.get? pattern = some numbers ∧ number ∈ numbers

theorem mem_inboxesOf {topic : String} :
    number ∈ bus.inboxesOf topic ↔
      ∃ pattern, Topic.isMatch pattern topic = true ∧ bus.Feeds pattern number := by
  unfold inboxesOf Feeds
  rw [List.mem_flatMap]
  constructor
  · rintro ⟨⟨pattern, numbers⟩, member, isNumber⟩
    obtain ⟨isEntry, isMatch⟩ := List.mem_filter.1 member
    exact ⟨pattern, isMatch, numbers, OrderedMap.get?_eq_some_iff_mem.2 isEntry, isNumber⟩
  · rintro ⟨pattern, isMatch, numbers, found, isNumber⟩
    exact ⟨(pattern, numbers),
      List.mem_filter.2 ⟨OrderedMap.get?_eq_some_iff_mem.1 found, isMatch⟩, isNumber⟩

theorem feeds_insert {channels : OrderedMap String (List Nat)} {other : String} {viewer : Nat} :
    (∃ numbers, (channels.insert pattern ((channels.get? pattern).getD [] ++ [number])).get? other =
        some numbers ∧ viewer ∈ numbers) ↔
      (∃ numbers, channels.get? other = some numbers ∧ viewer ∈ numbers) ∨
        (other = pattern ∧ viewer = number) := by
  rw [OrderedMap.get?_insert_if]
  by_cases same : pattern = other
  · subst same
    rw [if_pos rfl]
    cases channels.get? pattern <;> simp
  · rw [if_neg same]
    simp [Ne.symm same]

/-- The three ways in which a call to subscribe ends: it is refused, it does not return, or there is
one more subscription. -/
theorem subscribe_cases (bus : Bus) (pattern : String) :
    (pattern = "" ∧
        bus.subscribe pattern = .error (.refused (.subscribeFailed "empty topic pattern"))) ∨
      (pattern ≠ "" ∧ bus.channels.contains pattern = false ∧ isCapacity bus.capacity = false ∧
        bus.subscribe pattern = .error .noChannel) ∨
      (pattern ≠ "" ∧ (bus.channels.contains pattern = true ∨ isCapacity bus.capacity = true) ∧
        ∃ number next, bus.subscribe pattern = .ok (number, next)) := by
  unfold subscribe
  rw [ne_eq, ← String.isEmpty_iff]
  by_cases empty : pattern.isEmpty = true
  · exact Or.inl ⟨empty, if_pos empty⟩
  rw [if_neg empty]
  refine Or.inr ?_
  by_cases closed : (!bus.channels.contains pattern && !isCapacity bus.capacity) = true
  · rw [if_pos closed]
    simp only [Bool.and_eq_true, Bool.not_eq_true'] at closed
    exact Or.inl ⟨empty, closed.1, closed.2, rfl⟩
  · rw [if_neg closed]
    refine Or.inr ⟨empty, ?_, _, _, rfl⟩
    simpa [or_iff_not_imp_left] using closed

theorem subscribe_eq_ok (done : bus.subscribe pattern = .ok (number, next)) :
    number = bus.lastSubscription + 1 ∧ next = { bus with
      channels := bus.channels.insert pattern ((bus.channels.get? pattern).getD [] ++ [number])
      subscriptions := bus.subscriptions.insert number pattern
      inboxes := bus.inboxes.insert number (Inbox.ofCapacity bus.room)
      stats := { bus.stats with subscriptions := bus.stats.subscriptions + 1 }
      lastSubscription := number } := by
  unfold subscribe at done
  split at done
  · cases done
  split at done
  · cases done
  · obtain ⟨rfl, rfl⟩ := Prod.mk.inj (Except.ok.inj done)
    exact ⟨rfl, rfl⟩

/-- Leaving a subscription leaves the channel of its pattern if another one to the pattern is left,
and removes it otherwise. -/
theorem unsubscribe?_eq_some (done : bus.unsubscribe? number = some next) :
    ∃ pattern, bus.subscriptions.get? number = some pattern ∧
      let left := { bus with
        subscriptions := bus.subscriptions.erase number
        stats := { bus.stats with subscriptions := bus.stats.subscriptions - 1 } }
      (next = left ∧ ∃ other, (bus.subscriptions.erase number).get? other = some pattern) ∨
        (next = left.removeChannel pattern ∧
          ∀ other, (bus.subscriptions.erase number).get? other ≠ some pattern) := by
  unfold unsubscribe? at done
  split at done
  · cases done
  next pattern found =>
  refine ⟨pattern, found, ?_⟩
  dsimp only at done ⊢
  split at done
  · next some =>
    obtain ⟨entry, isEntry, same⟩ := List.any_eq_true.1 some
    refine Or.inl ⟨(Option.some.inj done).symm, entry.1, ?_⟩
    rw [← eq_of_beq same]
    exact OrderedMap.get?_eq_some_iff_mem.2 isEntry
  · next none =>
    refine Or.inr ⟨(Option.some.inj done).symm, fun other isOther => none ?_⟩
    exact List.any_eq_true.2 ⟨(other, pattern), OrderedMap.get?_eq_some_iff_mem.1 isOther,
      beq_self_eq_true pattern⟩

theorem feeds_removeChannel {own : String} {viewer : Nat} :
    (bus.removeChannel pattern).Feeds own viewer ↔ own ≠ pattern ∧ bus.Feeds own viewer := by
  simp only [Feeds, removeChannel, OrderedMap.get?_erase_eq_some, and_assoc, exists_and_left]

theorem get?_channels_dropInbox (own : String) : (bus.dropInbox number).channels.get? own =
    (bus.channels.get? own).map (List.filter (· != number)) :=
  OrderedMap.get?_mapValues _ bus.channels own

theorem feeds_dropInbox {own : String} {viewer : Nat} :
    (bus.dropInbox number).Feeds own viewer ↔ viewer ≠ number ∧ bus.Feeds own viewer := by
  unfold Feeds
  rw [get?_channels_dropInbox]
  cases bus.channels.get? own with
  | none => simp
  | some numbers => simp [List.mem_filter, and_comm]

/-- Receiving takes from the inbox of the number, if there is one, and changes nothing else. -/
theorem receive_cases (bus : Bus) (number : Nat) :
    (bus.inboxes.get? number = none ∧ bus.receive number = (.closed, bus)) ∨
      ∃ inbox, bus.inboxes.get? number = some inbox ∧ bus.receive number =
        (inbox.receive.1, { bus with inboxes := bus.inboxes.insert number inbox.receive.2 }) := by
  unfold receive
  cases bus.inboxes.get? number with
  | none => exact Or.inl ⟨rfl, rfl⟩
  | some inbox => exact Or.inr ⟨inbox, rfl, rfl⟩

/-- Receiving changes nothing but the inboxes. -/
theorem exists_receive_eq (bus : Bus) (number : Nat) :
    ∃ inboxes, (bus.receive number).2 = { bus with inboxes := inboxes } := by
  rcases receive_cases bus number with ⟨-, result⟩ | ⟨inbox, -, result⟩
  · exact ⟨bus.inboxes, by rw [result]⟩
  · exact ⟨_, by rw [result]⟩

/-! ### The invariant -/

/-- A bus whose channels are as its history says. -/
structure Sound (past : List Happening) (bus : Bus) : Prop where
  handlers : bus.handlers = Happening.handlers past
  subscribed : ∀ number pattern, Happening.open? number past = some pattern →
    bus.subscriptions.get? number = some pattern
  fed : ∀ number pattern, Happening.open? number past = some pattern → bus.Feeds pattern number
  listens : ∀ number pattern, bus.Feeds pattern number → (bus.inboxes.get? number).isSome = true
  /-- A number stands in one channel at most, and there once. -/
  apart : ∀ number pattern other, bus.Feeds pattern number → bus.Feeds other number →
    pattern = other
  once : ∀ pattern numbers, bus.channels.get? pattern = some numbers → numbers.Nodup
  boundedChannels : ∀ number pattern, bus.Feeds pattern number → number ≤ bus.lastSubscription
  boundedSubscriptions : ∀ number pattern, bus.subscriptions.get? number = some pattern →
    number ≤ bus.lastSubscription

namespace Sound

theorem ofCapacity (capacity : Nat) : Sound [] (ofCapacity capacity) := by
  have feedsNone : ∀ number pattern, ¬(Bus.ofCapacity capacity).Feeds pattern number := by
    rintro number pattern ⟨numbers, found, -⟩
    cases found
  exact {
    handlers := rfl
    subscribed := fun number pattern isOpen => by cases isOpen
    fed := fun number pattern isOpen => by cases isOpen
    listens := fun number pattern feeds => absurd feeds (feedsNone number pattern)
    apart := fun number pattern _ feeds => absurd feeds (feedsNone number pattern)
    once := fun pattern numbers found => by cases found
    boundedChannels := fun number pattern feeds => absurd feeds (feedsNone number pattern)
    boundedSubscriptions := fun number pattern found => by cases found }

variable {past : List Happening} (sound : Sound past bus)

include sound

/-- An event comes to no inbox twice. -/
theorem nodup_inboxesOf (topic : String) : (bus.inboxesOf topic).Nodup := by
  unfold inboxesOf
  rw [List.nodup_flatMap]
  constructor
  · intro entry member
    have isEntry := (List.mem_filter.1 member).1
    exact sound.once entry.1 entry.2 (OrderedMap.get?_eq_some_iff_mem.2 isEntry)
  · have distinct : bus.channels.entries.Pairwise fun first second => first.1 ≠ second.1 :=
      List.pairwise_map.1 bus.channels.nodup_keys
    refine List.Pairwise.filter _ (distinct.imp_of_mem fun {first second} isFirst isSecond ne => ?_)
    intro number inFirst inSecond
    exact ne (sound.apart number first.1 second.1
      ⟨first.2, OrderedMap.get?_eq_some_iff_mem.2 isFirst, inFirst⟩
      ⟨second.2, OrderedMap.get?_eq_some_iff_mem.2 isSecond, inSecond⟩)

/-- An event comes to an inbox that is fed if it matches the pattern. -/
theorem mem_inboxesOf_of_feeds {number : Nat} {pattern : String} (fed : bus.Feeds pattern number)
    (topic : String) : number ∈ bus.inboxesOf topic ↔ Topic.isMatch pattern topic = true := by
  rw [mem_inboxesOf]
  constructor
  · rintro ⟨other, isMatch, feeds⟩
    rwa [sound.apart number pattern other fed feeds]
  · exact fun isMatch => ⟨pattern, isMatch, fed⟩

/-- An event comes to an open subscription if it matches the pattern. -/
theorem mem_inboxesOf_iff {number : Nat} {pattern : String}
    (isOpen : Happening.open? number past = some pattern) (topic : String) :
    number ∈ bus.inboxesOf topic ↔ Topic.isMatch pattern topic = true :=
  sound.mem_inboxesOf_of_feeds (sound.fed number pattern isOpen) topic

/-- What is in the inboxes after a channel has been removed. -/
theorem get?_removeChannel (pattern : String) (number : Nat) :
    (bus.removeChannel pattern).inboxes.get? number = (bus.inboxes.get? number).map fun inbox =>
      if number ∈ (bus.channels.get? pattern).getD [] then inbox.close else inbox := by
  refine get?_foldl_change Inbox.close ?_ bus.inboxes number
  cases found : bus.channels.get? pattern with
  | none => exact List.nodup_nil
  | some numbers => exact sound.once pattern numbers found

/-- Removing a channel leaves the inboxes alone that it does not feed. -/
theorem get?_removeChannel_of_not_feeds (unfed : ¬bus.Feeds pattern number) :
    (bus.removeChannel pattern).inboxes.get? number = bus.inboxes.get? number := by
  have passed : number ∉ (bus.channels.get? pattern).getD [] := by
    intro member
    cases found : bus.channels.get? pattern with
    | none =>
      rw [found] at member
      cases member
    | some numbers =>
      rw [found] at member
      exact unfed ⟨numbers, found, member⟩
  rw [sound.get?_removeChannel]
  simp only [if_neg passed, Option.map_id']

/-- What is in the inboxes after an event has been published. -/
theorem get?_publish (event : Event) (number : Nat) :
    (bus.publish event).2.inboxes.get? number = (bus.inboxes.get? number).map fun inbox =>
      if number ∈ bus.inboxesOf event.topic then inbox.push event else inbox :=
  get?_foldl_change (·.push event) (sound.nodup_inboxesOf event.topic) ..

/-- Where nothing is added, the invariant stays if those whose subscriptions are open stay. -/
theorem shrink {happening : Happening}
    (handlers : next.handlers = Happening.handlers (happening :: past))
    (last : next.lastSubscription = bus.lastSubscription)
    (subscriptions : ∀ viewer pattern, next.subscriptions.get? viewer = some pattern →
      bus.subscriptions.get? viewer = some pattern)
    (feeds : ∀ viewer pattern, next.Feeds pattern viewer → bus.Feeds pattern viewer)
    (once : ∀ pattern numbers, next.channels.get? pattern = some numbers → numbers.Nodup)
    (listens : ∀ viewer pattern, next.Feeds pattern viewer →
      (next.inboxes.get? viewer).isSome = true)
    (stay : ∀ viewer pattern, Happening.open? viewer (happening :: past) = some pattern →
      next.subscriptions.get? viewer = some pattern ∧ next.Feeds pattern viewer) :
    Sound (happening :: past) next where
  handlers := handlers
  subscribed viewer pattern isOpen := (stay viewer pattern isOpen).1
  fed viewer pattern isOpen := (stay viewer pattern isOpen).2
  listens := listens
  apart viewer pattern other isFed isOther :=
    sound.apart viewer pattern other (feeds viewer pattern isFed) (feeds viewer other isOther)
  once := once
  boundedChannels viewer pattern isFed :=
    last ▸ sound.boundedChannels viewer pattern (feeds viewer pattern isFed)
  boundedSubscriptions viewer pattern found :=
    last ▸ sound.boundedSubscriptions viewer pattern (subscriptions viewer pattern found)

/-- What concerns no channel and keeps all inboxes that there are keeps the invariant. -/
theorem aside {happening : Happening}
    (silent : Happening.handlers (happening :: past) = Happening.handlers past ∧
      ∀ number, Happening.open? number (happening :: past) = Happening.open? number past)
    (handlers : next.handlers = bus.handlers) (subscriptions : next.subscriptions = bus.subscriptions)
    (channels : next.channels = bus.channels) (last : next.lastSubscription = bus.lastSubscription)
    (inboxes : ∀ number, (bus.inboxes.get? number).isSome = true →
      (next.inboxes.get? number).isSome = true) : Sound (happening :: past) next := by
  have feeds : next.Feeds = bus.Feeds := by
    unfold Feeds
    rw [channels]
  obtain ⟨sameHandlers, sameOpen⟩ := silent
  refine sound.shrink (handlers.trans (sound.handlers.trans sameHandlers.symm)) last
    (fun viewer pattern found => subscriptions ▸ found) (fun viewer pattern isFed => feeds ▸ isFed)
    (channels ▸ sound.once) (fun viewer pattern isFed => ?_) fun viewer pattern isOpen => ?_
  · exact inboxes viewer (sound.listens viewer pattern (feeds ▸ isFed))
  · rw [sameOpen] at isOpen
    rw [subscriptions, feeds]
    exact ⟨sound.subscribed viewer pattern isOpen, sound.fed viewer pattern isOpen⟩

theorem subscribe (done : bus.subscribe pattern = .ok (number, next)) :
    Sound (.subscribed number pattern :: past) next := by
  obtain ⟨rfl, rfl⟩ := subscribe_eq_ok done
  have isNew : ∀ pattern, ¬bus.Feeds pattern (bus.lastSubscription + 1) := fun pattern feeds =>
    absurd (sound.boundedChannels _ pattern feeds) (Nat.not_succ_le_self _)
  constructor
  case handlers => exact sound.handlers
  case subscribed =>
    intro viewer other isOpen
    show (bus.subscriptions.insert _ pattern).get? viewer = some other
    rw [OrderedMap.get?_insert_if]
    rw [Happening.open?] at isOpen
    split at isOpen
    · next same => rw [if_pos same, ← isOpen]
    · next ne => rw [if_neg ne]; exact sound.subscribed viewer other isOpen
  case fed =>
    intro viewer other isOpen
    refine feeds_insert.2 ?_
    rw [Happening.open?] at isOpen
    split at isOpen
    · next same => exact Or.inr ⟨(Option.some.inj isOpen).symm, same.symm⟩
    · exact Or.inl (sound.fed viewer other isOpen)
  case listens =>
    intro viewer other feeds
    show ((bus.inboxes.insert _ _).get? viewer).isSome = true
    rw [OrderedMap.get?_insert_if]
    split
    · rfl
    next ne =>
    rcases feeds_insert.1 feeds with earlier | ⟨-, same⟩
    · exact sound.listens viewer other earlier
    · exact absurd same.symm ne
  case apart =>
    intro viewer first second feeds otherFeeds
    rcases feeds_insert.1 feeds with earlier | ⟨rfl, rfl⟩
    · rcases feeds_insert.1 otherFeeds with otherEarlier | ⟨-, rfl⟩
      · exact sound.apart viewer first second earlier otherEarlier
      · exact absurd earlier (isNew first)
    · rcases feeds_insert.1 otherFeeds with otherEarlier | ⟨rfl, -⟩
      · exact absurd otherEarlier (isNew second)
      · rfl
  case once =>
    intro other numbers found
    rcases OrderedMap.get?_insert_eq_some.1 found with ⟨rfl, rfl⟩ | ⟨-, earlier⟩
    · cases known : bus.channels.get? other with
      | none => exact List.nodup_singleton _
      | some numbers =>
        refine (sound.once other numbers known).append (List.nodup_singleton _) ?_
        rw [List.disjoint_singleton]
        exact fun member => isNew other ⟨numbers, known, member⟩
    · exact sound.once other numbers earlier
  case boundedChannels =>
    intro viewer other feeds
    rcases feeds_insert.1 feeds with earlier | ⟨-, rfl⟩
    · exact Nat.le_succ_of_le (sound.boundedChannels viewer other earlier)
    · exact Nat.le_refl _
  case boundedSubscriptions =>
    intro viewer other found
    rcases OrderedMap.get?_insert_eq_some.1 found with ⟨rfl, -⟩ | ⟨-, earlier⟩
    · exact Nat.le_refl _
    · exact Nat.le_succ_of_le (sound.boundedSubscriptions viewer other earlier)

/-- The channel that is removed with the last subscription to its pattern fed no other one. -/
theorem unsubscribe (done : bus.unsubscribe? number = some next) :
    Sound (.unsubscribed number :: past) next := by
  obtain ⟨pattern, found, outcome⟩ := unsubscribe?_eq_some done
  have fewer : ∀ viewer other, (bus.subscriptions.erase number).get? viewer = some other →
      bus.subscriptions.get? viewer = some other :=
    fun viewer other isOther => (OrderedMap.get?_erase_eq_some.1 isOther).2
  have stay : ∀ viewer other,
      Happening.open? viewer (.unsubscribed number :: past) = some other →
      (bus.subscriptions.erase number).get? viewer = some other ∧ bus.Feeds other viewer := by
    intro viewer other isOpen
    obtain ⟨ne, wasOpen⟩ := Option.ite_none_left_eq_some.1 isOpen
    exact ⟨OrderedMap.get?_erase_eq_some.2 ⟨Ne.symm ne, sound.subscribed viewer other wasOpen⟩,
      sound.fed viewer other wasOpen⟩
  rcases outcome with ⟨rfl, -⟩ | ⟨rfl, none⟩
  · exact sound.shrink sound.handlers rfl fewer (fun _ _ feeds => feeds) sound.once sound.listens
      stay
  · refine sound.shrink sound.handlers rfl fewer
      (fun viewer other isFed => (feeds_removeChannel.1 isFed).2)
      (fun other numbers isOther =>
        sound.once other numbers (OrderedMap.get?_erase_eq_some.1 isOther).2) ?_ ?_
    · intro viewer other isFed
      have known := sound.listens viewer other (feeds_removeChannel.1 isFed).2
      show ((bus.removeChannel pattern).inboxes.get? viewer).isSome = true
      rw [sound.get?_removeChannel, Option.isSome_map]
      exact known
    · intro viewer other isOpen
      obtain ⟨kept, fed⟩ := stay viewer other isOpen
      refine ⟨kept, feeds_removeChannel.2 ⟨?_, fed⟩⟩
      rintro rfl
      exact none viewer kept

theorem drop (number : Nat) : Sound (.dropped number :: past) (bus.dropInbox number) := by
  refine sound.shrink sound.handlers rfl (fun _ _ found => found)
    (fun viewer pattern isFed => (feeds_dropInbox.1 isFed).2) ?_ ?_ ?_
  · intro pattern numbers found
    rw [get?_channels_dropInbox] at found
    obtain ⟨all, isAll, rfl⟩ := Option.map_eq_some_iff.1 found
    exact (sound.once pattern all isAll).filter _
  · intro viewer pattern isFed
    obtain ⟨ne, earlier⟩ := feeds_dropInbox.1 isFed
    show ((bus.inboxes.erase number).get? viewer).isSome = true
    rw [OrderedMap.get?_erase_if, if_neg (Ne.symm ne)]
    exact sound.listens viewer pattern earlier
  · intro viewer pattern isOpen
    obtain ⟨ne, wasOpen⟩ := Option.ite_none_left_eq_some.1 isOpen
    exact ⟨sound.subscribed viewer pattern wasOpen,
      feeds_dropInbox.2 ⟨Ne.symm ne, sound.fed viewer pattern wasOpen⟩⟩

/-- Every request keeps the invariant. -/
theorem serve (request : Request) :
    Sound ((bus.serve request).1 :: past) (bus.serve request).2 := by
  cases request with
  | subscribe pattern =>
    simp only [Bus.serve]
    split
    · next done => exact sound.subscribe done
    · exact sound.aside ⟨rfl, fun _ => rfl⟩ rfl rfl rfl rfl fun _ known => known
    · exact sound.aside ⟨rfl, fun _ => rfl⟩ rfl rfl rfl rfl fun _ known => known
  | unsubscribe number =>
    simp only [Bus.serve]
    split
    · next done => exact sound.unsubscribe done
    · exact sound.aside ⟨rfl, fun _ => rfl⟩ rfl rfl rfl rfl fun _ known => known
  | drop number => exact sound.drop number
  | register handler =>
    exact { sound with handlers := congrArg (· ++ [handler]) sound.handlers }
  | publish event =>
    refine sound.aside ⟨rfl, fun _ => rfl⟩ rfl rfl rfl rfl fun number known => ?_
    show ((bus.publish event).2.inboxes.get? number).isSome = true
    rw [sound.get?_publish, Option.isSome_map]
    exact known
  | receive number =>
    simp only [Bus.serve]
    rcases receive_cases bus number with ⟨-, result⟩ | ⟨inbox, -, result⟩
    · rw [result]
      exact sound.aside ⟨rfl, fun _ => rfl⟩ rfl rfl rfl rfl fun _ known => known
    · rw [result]
      refine sound.aside ⟨rfl, fun _ => rfl⟩ rfl rfl rfl rfl fun viewer known => ?_
      dsimp only
      rw [OrderedMap.get?_insert_if]
      split
      · rfl
      · exact known

end Sound

end Bus

end Entitlement
