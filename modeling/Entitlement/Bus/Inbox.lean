/-
This file holds the inbox of a subscriber. It keeps the newest events up to its capacity; when
it has lost some, the next try to receive says so, once, before the events that are left.
-/

import Entitlement.Event.Basic

namespace Entitlement

structure Inbox where
  capacity : Nat
  /-- The events not yet received, the oldest first. -/
  queued : List Event
  /-- Whether events were lost since the last receipt. -/
  hasLost : Bool
  /-- Whether no more events will come. -/
  isClosed : Bool

/-- What a try to receive gives. -/
inductive Receipt where
  | event (event : Event)
  | lost
  | nothingYet
  | closed

namespace Inbox

def ofCapacity (capacity : Nat) : Inbox where
  capacity := capacity
  queued := []
  hasLost := false
  isClosed := false

/-- The inbox with one more event, and without the oldest if it was full. -/
def push (inbox : Inbox) (event : Event) : Inbox :=
  let all := inbox.queued ++ [event]
  if inbox.capacity < all.length then
    { inbox with queued := all.drop (all.length - inbox.capacity), hasLost := true }
  else { inbox with queued := all }

def close (inbox : Inbox) : Inbox :=
  { inbox with isClosed := true }

/-- One try to receive, and the inbox after it. -/
def receive (inbox : Inbox) : Receipt × Inbox :=
  if inbox.hasLost then (.lost, { inbox with hasLost := false })
  else match inbox.queued with
    | event :: rest => (.event event, { inbox with queued := rest })
    | [] => (if inbox.isClosed then .closed else .nothingYet, inbox)

/-- The events that can be received before a try gives none, and the inbox after that try. -/
def drain (inbox : Inbox) : List Event × Inbox :=
  if inbox.hasLost then ([], { inbox with hasLost := false })
  else (inbox.queued, { inbox with queued := [] })

end Inbox

end Entitlement
