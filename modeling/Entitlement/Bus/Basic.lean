/-
This file holds the bus, which brings published events to subscribers and handlers. There is
one channel for each pattern that some subscription has; it goes away with the last of them,
and then the inboxes it fed are closed.
-/

import Entitlement.Bus.Inbox
import Entitlement.Bus.Topic
import Entitlement.Ordered.Map

namespace Entitlement

/-- Why a call on the bus failed. -/
inductive BusError where
  | publishFailed (why : String)
  | subscribeFailed (why : String)
  | unknownSubscription (id : String)
  | unwritable (why : String)
  | handlerFailed (why : String)
  | channelClosed
deriving DecidableEq, Repr

def BusError.message : BusError → String
  | publishFailed why => "Failed to publish event: " ++ why
  | subscribeFailed why => "Failed to subscribe: " ++ why
  | unknownSubscription id => "Unknown subscription: " ++ id
  | unwritable why => "Serialization error: " ++ why
  | handlerFailed why => "Handler error: " ++ why
  | channelClosed => "Channel closed"

/-- Why a subscription does not come about. -/
inductive SubscribeFailure where
  | refused (reason : BusError)
  /-- There can be no channel for it, and the call does not return. -/
  | noChannel
deriving DecidableEq, Repr

/-- What is called for every event under some topics. Whether it fails is its own affair. -/
structure Handler where
  label : String
  topics : List String
deriving DecidableEq, Repr

def Handler.wants (handler : Handler) (topic : String) : Bool :=
  handler.topics.any fun pattern => Topic.isMatch pattern topic

/-- What the bus has done so far and what it has to do with. -/
structure BusStats where
  published : Nat
  delivered : Nat
  subscriptions : Nat
  handlers : Nat
deriving DecidableEq, Repr

structure Bus where
  /-- The capacity that was asked for. -/
  capacity : Nat
  /-- The numbers of the inboxes that the events matching a pattern go to. -/
  channels : OrderedMap String (List Nat)
  /-- The pattern of every subscription. -/
  subscriptions : OrderedMap Nat String
  /-- The inboxes that somebody still listens to, by the number of their subscription. -/
  inboxes : OrderedMap Nat Inbox
  handlers : List Handler
  stats : BusStats
  /-- The number of the last subscription. -/
  lastSubscription : Nat

namespace Bus

/-- The least power of two that is not below the number. -/
def powerAtLeast (number : Nat) : Nat :=
  if number ≤ 1 then 1 else Nat.pow 2 (Nat.log2 (number - 1) + 1)

/-- The number of events that an inbox holds: the capacity, rounded up to a power of two. -/
def room (bus : Bus) : Nat :=
  powerAtLeast bus.capacity

/-- The largest capacity that a channel can have, which is half of the largest word. -/
def maxCapacity : Nat := Nat.pow 2 63 - 1

/-- Whether there can be a channel of the capacity. -/
def isCapacity (capacity : Nat) : Bool :=
  0 < capacity && capacity ≤ maxCapacity

def ofCapacity (capacity : Nat) : Bus where
  capacity := capacity
  channels := OrderedMap.empty
  subscriptions := OrderedMap.empty
  inboxes := OrderedMap.empty
  handlers := []
  stats := ⟨0, 0, 0, 0⟩
  lastSubscription := 0

def defaultCapacity : Nat := 1024

instance : Inhabited Bus := ⟨ofCapacity defaultCapacity⟩

/-! ### Subscribing -/

/-- A new subscription to the pattern, and its number. A channel is opened unless the pattern has
one, and where this cannot be done the call does not return. -/
def subscribe (bus : Bus) (pattern : String) : Except SubscribeFailure (Nat × Bus) :=
  if pattern.isEmpty then .error (.refused (.subscribeFailed "empty topic pattern"))
  else if !bus.channels.contains pattern && !isCapacity bus.capacity then .error .noChannel
  else
    let number := bus.lastSubscription + 1
    let earlier := (bus.channels.get? pattern).getD []
    .ok (number, { bus with
      channels := bus.channels.insert pattern (earlier ++ [number])
      subscriptions := bus.subscriptions.insert number pattern
      inboxes := bus.inboxes.insert number (Inbox.ofCapacity bus.room)
      stats := { bus.stats with subscriptions := bus.stats.subscriptions + 1 }
      lastSubscription := number })

/-- The inboxes with those of the given numbers closed. -/
def closeAll (inboxes : OrderedMap Nat Inbox) (numbers : List Nat) : OrderedMap Nat Inbox :=
  numbers.foldl (fun inboxes number =>
    match inboxes.get? number with
    | some inbox => inboxes.insert number inbox.close
    | none => inboxes) inboxes

/-- The bus without the channel of a pattern. -/
def removeChannel (bus : Bus) (pattern : String) : Bus :=
  { bus with
    channels := bus.channels.erase pattern
    inboxes := closeAll bus.inboxes ((bus.channels.get? pattern).getD []) }

/-- The bus without a subscription, if there is one of the number. Its inbox stays and is fed
as long as the channel of its pattern is there. -/
def unsubscribe? (bus : Bus) (number : Nat) : Option Bus :=
  match bus.subscriptions.get? number with
  | none => none
  | some pattern =>
    let left := { bus with
      subscriptions := bus.subscriptions.erase number
      stats := { bus.stats with subscriptions := bus.stats.subscriptions - 1 } }
    if left.subscriptions.entries.any fun entry => entry.2 == pattern then some left
    else some (left.removeChannel pattern)

/-- The bus after nobody listens to the inbox any more. The subscription stays. -/
def dropInbox (bus : Bus) (number : Nat) : Bus :=
  { bus with
    channels := ⟨bus.channels.entries.map fun entry => (entry.1, entry.2.filter (· != number)), by
      simpa [Function.comp_def] using bus.channels.increasing⟩
    inboxes := bus.inboxes.erase number }

/-! ### Publishing -/

def addHandler (bus : Bus) (handler : Handler) : Bus :=
  { bus with
    handlers := bus.handlers ++ [handler]
    stats := { bus.stats with handlers := bus.stats.handlers + 1 } }

/-- The handlers that are called for a topic, each once. -/
def handlersOf (bus : Bus) (topic : String) : List Handler :=
  bus.handlers.filter fun handler => handler.wants topic

/-- The numbers of the inboxes that get the events of a topic. -/
def inboxesOf (bus : Bus) (topic : String) : List Nat :=
  (bus.channels.entries.filter fun entry => Topic.isMatch entry.1 topic).flatMap Prod.snd

/-- The inboxes after an event has come to those of the given numbers. -/
def pushAll (inboxes : OrderedMap Nat Inbox) (event : Event) (numbers : List Nat) :
    OrderedMap Nat Inbox :=
  numbers.foldl (fun inboxes number =>
    match inboxes.get? number with
    | some inbox => inboxes.insert number (inbox.push event)
    | none => inboxes) inboxes

/-- The handlers that are called for an event, and the bus after it has been published. -/
def publish (bus : Bus) (event : Event) : List Handler × Bus :=
  let reached := bus.inboxesOf event.topic
  let called := bus.handlersOf event.topic
  (called, { bus with
    inboxes := pushAll bus.inboxes event reached
    stats := { bus.stats with
      published := bus.stats.published + 1
      delivered := bus.stats.delivered + reached.length + called.length } })

/-! ### Receiving -/

/-- One try to receive from the inbox of a subscription, and the bus after it. -/
def receive (bus : Bus) (number : Nat) : Receipt × Bus :=
  match bus.inboxes.get? number with
  | none => (.closed, bus)
  | some inbox =>
    match inbox.receive with
    | (receipt, inbox) => (receipt, { bus with inboxes := bus.inboxes.insert number inbox })

/-- The event that is queued, if receiving gives one. A loss counts as nothing queued. -/
def tryReceive (bus : Bus) (number : Nat) : Option Event × Bus :=
  match bus.receive number with
  | (.event event, bus) => (some event, bus)
  | (_, bus) => (none, bus)

/-- The next event of a subscription, or none yet. A loss counts as the end of the channel. -/
def awaitEvent (bus : Bus) (number : Nat) : Except BusError (Option Event) × Bus :=
  match bus.receive number with
  | (.event event, bus) => (.ok (some event), bus)
  | (.nothingYet, bus) => (.ok none, bus)
  | (_, bus) => (.error .channelClosed, bus)

/-- The events of the inbox of a subscription up to the first try that gives none. -/
def drain (bus : Bus) (number : Nat) : List Event × Bus :=
  match bus.inboxes.get? number with
  | none => ([], bus)
  | some inbox =>
    match inbox.drain with
    | (events, inbox) => (events, { bus with inboxes := bus.inboxes.insert number inbox })

end Bus

end Entitlement
