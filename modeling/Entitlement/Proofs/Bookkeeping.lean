/-
This file proves that a bus keeps its books. It writes down twice what is subscribed to, by the
numbers of the subscriptions and by their patterns, and it counts the subscriptions besides.
Whatever the bus is asked to do, and in whatever order, the three agree (`Bus.Balanced`): a pattern
has a channel from the first subscription to it until the last one is given up, whether or not
anyone listens, and the count is never taken below zero. What is refused leaves the books as they
are. So does a call that never returns, because there can be no channel of the capacity that was
asked for.
-/

import Entitlement.Proofs.Delivery

namespace Entitlement

namespace Bus

/-! ### Requests that are refused -/

/-- Whether a request was refused, or the call did not return. -/
def Happening.isRefusal : Happening → Bool
  | refused _ | stopped _ | unknown _ => true
  | _ => false

variable {bus next : Bus} {pattern : String} {number : Nat}

/-- What is refused changes nothing. -/
theorem serve_of_isRefusal {request : Request} (refused : (bus.serve request).1.isRefusal = true) :
    (bus.serve request).2 = bus := by
  cases request with
  | subscribe pattern =>
    simp only [serve] at refused ⊢
    split at refused
    · cases refused
    · rfl
    · rfl
  | unsubscribe number =>
    simp only [serve] at refused ⊢
    split at refused
    · cases refused
    · rfl
  | drop | register | publish | receive => cases refused

/-- A subscription is refused if its pattern is empty, and never else. -/
theorem subscribe_refused_iff {reason : BusError} :
    (bus.serve (.subscribe pattern)).1 = .refused reason ↔
      pattern = "" ∧ reason = .subscribeFailed "empty topic pattern" := by
  rw [serve]
  rcases bus.subscribe_cases pattern with ⟨empty, ended⟩ | ⟨named, -, -, ended⟩ |
    ⟨named, -, number, next, ended⟩
  · rw [ended, and_iff_right empty]
    exact (Happening.refused.injEq ..).to_iff.trans eq_comm
  · rw [ended]
    refine iff_of_false (fun refused => ?_) fun refused => named refused.1
    cases refused
  · rw [ended]
    refine iff_of_false (fun refused => ?_) fun refused => named refused.1
    cases refused

/-- A call to subscribe does not return if the pattern needs a channel and there can be none. -/
theorem subscribe_stopped_iff : (bus.serve (.subscribe pattern)).1 = .stopped pattern ↔
    pattern ≠ "" ∧ bus.channels.contains pattern = false ∧ isCapacity bus.capacity = false := by
  rw [serve]
  rcases bus.subscribe_cases pattern with ⟨empty, ended⟩ | ⟨named, missing, closed, ended⟩ |
    ⟨-, opens, number, next, ended⟩
  · rw [ended]
    refine iff_of_false (fun stopped => ?_) fun stopped => stopped.1 empty
    cases stopped
  · rw [ended]
    exact iff_of_true rfl ⟨named, missing, closed⟩
  · rw [ended]
    refine iff_of_false (fun stopped => ?_) fun without => ?_
    · cases stopped
    · obtain ⟨-, missing, closed⟩ := without
      rcases opens with known | isCapacity
      · exact Bool.eq_false_iff.1 missing known
      · exact Bool.eq_false_iff.1 closed isCapacity

/-- A bus of capacity zero takes no subscriptions. -/
example : ((ofCapacity 0).serve (.subscribe "#")).1 = .stopped "#" := rfl

theorem unsubscribe?_eq_none_iff :
    bus.unsubscribe? number = none ↔ bus.subscriptions.get? number = none := by
  unfold unsubscribe?
  cases bus.subscriptions.get? number with
  | none => exact iff_of_true rfl rfl
  | some pattern =>
    refine iff_of_false ?_ nofun
    dsimp only
    split
    · nofun
    · nofun

/-- What cannot be given up is a subscription that there is not. -/
theorem unsubscribe_unknown_iff :
    (bus.serve (.unsubscribe number)).1 = .unknown number ↔
      bus.subscriptions.get? number = none := by
  rw [serve, ← unsubscribe?_eq_none_iff]
  cases bus.unsubscribe? number with
  | none => exact iff_of_true rfl rfl
  | some next =>
    refine iff_of_false (fun refused => ?_) (Option.some_ne_none next)
    cases refused

theorem unsubscribe?_of_serve
    (served : bus.serve (.unsubscribe number) = (.unsubscribed number, next)) :
    bus.unsubscribe? number = some next := by
  rw [serve] at served
  cases done : bus.unsubscribe? number with
  | none =>
    rw [done] at served
    cases served
  | some other =>
    rw [done] at served
    rw [(Prod.mk.inj served).2]

/-! ### Books that agree -/

/-- A bus whose books agree. -/
structure Balanced (bus : Bus) : Prop where
  counted : bus.stats.subscriptions = bus.subscriptions.size
  /-- A pattern has a channel just if there is a subscription to it. -/
  channels : ∀ pattern, bus.channels.contains pattern = true ↔
    ∃ number, bus.subscriptions.get? number = some pattern
  bounded : ∀ number pattern, bus.subscriptions.get? number = some pattern →
    number ≤ bus.lastSubscription
  /-- There are channels only where there can be any. -/
  opened : ∀ pattern, bus.channels.contains pattern = true → isCapacity bus.capacity = true

namespace Balanced

theorem ofCapacity (capacity : Nat) : (Bus.ofCapacity capacity).Balanced where
  counted := rfl
  channels pattern := by
    refine iff_of_false Bool.false_ne_true ?_
    rintro ⟨number, found⟩
    cases found
  bounded number pattern found := by cases found
  opened pattern known := by cases known

variable (balanced : bus.Balanced)

include balanced

/-- What changes no book keeps them in agreement. -/
theorem aside (counted : next.stats.subscriptions = bus.stats.subscriptions)
    (subscriptions : next.subscriptions = bus.subscriptions)
    (channels : ∀ pattern, next.channels.contains pattern = bus.channels.contains pattern)
    (last : next.lastSubscription = bus.lastSubscription)
    (capacity : next.capacity = bus.capacity) : next.Balanced where
  counted := by rw [counted, subscriptions, balanced.counted]
  channels pattern := by rw [channels, subscriptions, balanced.channels]
  bounded number pattern found := by
    rw [subscriptions] at found
    exact last ▸ balanced.bounded number pattern found
  opened pattern known := by
    rw [channels] at known
    exact capacity ▸ balanced.opened pattern known

/-- A new subscription is counted, and its pattern has a channel. -/
theorem subscribe (done : bus.subscribe pattern = .ok (number, next)) : next.Balanced := by
  have opens : isCapacity bus.capacity = true := by
    rcases bus.subscribe_cases pattern with ⟨-, ended⟩ | ⟨-, -, -, ended⟩ | ⟨-, opens, -⟩
    · cases done.symm.trans ended
    · cases done.symm.trans ended
    · exact opens.elim (balanced.opened pattern) id
  obtain ⟨rfl, rfl⟩ := subscribe_eq_ok done
  have free : ∀ own, bus.subscriptions.get? (bus.lastSubscription + 1) ≠ some own :=
    fun own found => Nat.not_succ_le_self _ (balanced.bounded _ own found)
  constructor
  case counted =>
    show bus.stats.subscriptions + 1 = (bus.subscriptions.insert _ pattern).size
    rw [OrderedMap.size_insert_of_none pattern (Option.eq_none_iff_forall_ne_some.2 free),
      balanced.counted]
  case channels =>
    intro own
    show (bus.channels.insert pattern _).contains own = true ↔
      ∃ viewer, (bus.subscriptions.insert _ pattern).get? viewer = some own
    rw [OrderedMap.contains_insert, balanced.channels]
    constructor
    · rintro (rfl | ⟨viewer, found⟩)
      · exact ⟨_, OrderedMap.get?_insert_self ..⟩
      · refine ⟨viewer, OrderedMap.get?_insert_eq_some.2 (Or.inr ⟨?_, found⟩)⟩
        rintro rfl
        exact free own found
    · rintro ⟨viewer, found⟩
      rcases OrderedMap.get?_insert_eq_some.1 found with ⟨-, same⟩ | ⟨-, earlier⟩
      · exact Or.inl same
      · exact Or.inr ⟨viewer, earlier⟩
  case bounded =>
    intro viewer own found
    rcases OrderedMap.get?_insert_eq_some.1 found with ⟨rfl, -⟩ | ⟨-, earlier⟩
    · exact Nat.le_refl _
    · exact Nat.le_succ_of_le (balanced.bounded viewer own earlier)
  case opened => exact fun _ _ => opens

/-- There is something to subtract from when a subscription is given up. -/
theorem count_unsubscribe (done : bus.unsubscribe? number = some next) :
    next.stats.subscriptions + 1 = bus.stats.subscriptions := by
  obtain ⟨pattern, found, outcome⟩ := unsubscribe?_eq_some done
  have fewer := OrderedMap.size_erase_of_some found
  have count : next.stats.subscriptions = bus.stats.subscriptions - 1 := by
    rcases outcome with ⟨rfl, -⟩ | ⟨rfl, -⟩
    · rfl
    · rfl
  rw [count, balanced.counted]
  omega

/-- The channel of the pattern stays if another subscription to it is left. -/
theorem unsubscribe (done : bus.unsubscribe? number = some next) : next.Balanced := by
  have count := balanced.count_unsubscribe done
  obtain ⟨pattern, found, outcome⟩ := unsubscribe?_eq_some done
  have counted : next.stats.subscriptions = (bus.subscriptions.erase number).size := by
    have fewer := OrderedMap.size_erase_of_some found
    rw [balanced.counted] at count
    omega
  have bounded : ∀ viewer own, (bus.subscriptions.erase number).get? viewer = some own →
      viewer ≤ bus.lastSubscription := fun viewer own left =>
    balanced.bounded viewer own (OrderedMap.get?_erase_eq_some.1 left).2
  have others : ∀ own ≠ pattern, (∃ viewer, bus.subscriptions.get? viewer = some own) ↔
      ∃ viewer, (bus.subscriptions.erase number).get? viewer = some own := by
    refine fun own apart => exists_congr fun viewer => ?_
    rw [OrderedMap.get?_erase_eq_some]
    refine (and_iff_right_of_imp fun isOwn same => apart ?_).symm
    rw [same, found] at isOwn
    exact (Option.some.inj isOwn).symm
  rcases outcome with ⟨rfl, viewer, kept⟩ | ⟨rfl, none⟩
  · refine ⟨counted, fun own => (balanced.channels own).trans ?_, bounded, balanced.opened⟩
    by_cases same : own = pattern
    · subst same
      exact iff_of_true ⟨number, found⟩ ⟨viewer, kept⟩
    · exact others own same
  · refine ⟨counted, fun own => OrderedMap.contains_erase.trans ?_, bounded,
      fun own known => balanced.opened own (OrderedMap.contains_erase.1 known).2⟩
    by_cases same : own = pattern
    · subst same
      exact iff_of_false (fun removed => removed.1 rfl) fun ⟨viewer, kept⟩ => none viewer kept
    · rw [balanced.channels, and_iff_right same]
      exact others own same

/-- Every request keeps the books in agreement. -/
theorem serve (request : Request) : (bus.serve request).2.Balanced := by
  cases request with
  | subscribe pattern =>
    simp only [Bus.serve]
    split
    · next done => exact balanced.subscribe done
    · exact balanced
    · exact balanced
  | unsubscribe number =>
    simp only [Bus.serve]
    split
    · next done => exact balanced.unsubscribe done
    · exact balanced
  | drop number =>
    refine balanced.aside rfl rfl (fun pattern => ?_) rfl rfl
    simp only [Bus.serve, OrderedMap.contains, get?_channels_dropInbox, Option.isSome_map]
  | register handler => exact balanced.aside rfl rfl (fun _ => rfl) rfl rfl
  | publish event => exact balanced.aside rfl rfl (fun _ => rfl) rfl rfl
  | receive number =>
    obtain ⟨inboxes, result⟩ := exists_receive_eq bus number
    simp only [Bus.serve, result]
    exact balanced.aside rfl rfl (fun _ => rfl) rfl rfl

end Balanced

theorem balanced_chronicle (capacity : Nat) (requests : List Request) :
    (chronicle capacity requests).bus.Balanced := by
  let motive (chronicle : Chronicle) := chronicle.bus.Balanced
  have start : motive ⟨ofCapacity capacity, []⟩ := Balanced.ofCapacity capacity
  exact List.foldlRecOn (motive := motive) requests Chronicle.serve start
    fun _ balanced request _ => balanced.serve request

/-- Whatever a bus has been asked to do, it counts its subscriptions right, has channels just for
their patterns, and has something to subtract from when one of them is given up. Only subscriptions
to nothing and numbers without a subscription are refused, and this changes nothing. Nor does a call
to subscribe that never returns, as happens where there can be no channels. -/
theorem books_balanced (capacity : Nat) (requests : List Request) :
    let bus := (chronicle capacity requests).bus
    bus.stats.subscriptions = bus.subscriptions.size ∧
      (∀ pattern, bus.channels.contains pattern = true ↔
        ∃ number, bus.subscriptions.get? number = some pattern) ∧
      (∀ number next, bus.serve (.unsubscribe number) = (.unsubscribed number, next) →
        next.stats.subscriptions + 1 = bus.stats.subscriptions) ∧
      (∀ pattern reason, (bus.serve (.subscribe pattern)).1 = .refused reason ↔
        pattern = "" ∧ reason = .subscribeFailed "empty topic pattern") ∧
      (∀ pattern, (bus.serve (.subscribe pattern)).1 = .stopped pattern ↔
        pattern ≠ "" ∧ isCapacity capacity = false) ∧
      (∀ number, (bus.serve (.unsubscribe number)).1 = .unknown number ↔
        bus.subscriptions.get? number = none) ∧
      ∀ request, (bus.serve request).1.isRefusal = true → (bus.serve request).2 = bus := by
  have balanced := balanced_chronicle capacity requests
  refine ⟨balanced.counted, balanced.channels, fun number next served => ?_,
    fun _ _ => subscribe_refused_iff, fun pattern => ?_, fun _ => unsubscribe_unknown_iff,
    fun _ => serve_of_isRefusal⟩
  · exact balanced.count_unsubscribe (unsubscribe?_of_serve served)
  · rw [subscribe_stopped_iff, capacity_chronicle]
    refine and_congr_right fun _ => and_iff_right_of_imp fun closed => ?_
    refine Bool.eq_false_iff.2 fun known => ?_
    have opens := balanced.opened pattern known
    rw [capacity_chronicle, closed] at opens
    cases opens

/-- The receivers of two subscriptions to a pattern are dropped and one of the two is given up. The
channel stays though it feeds nobody, and the second subscription can still be given up. -/
theorem books_balanced_unheard :
    ∃ (requests : List Request) (bus next : Bus),
      bus = (chronicle 1 requests).bus ∧ bus.stats = ⟨1, 1, 1, 1⟩ ∧ bus.subscriptions.size = 1 ∧
        bus.channels.contains "role.*" = true ∧ bus.inboxesOf "role.created" = [] ∧
        (bus.serve (.unsubscribe 3)).2 = bus ∧ (bus.serve (.subscribe "")).2 = bus ∧
        bus.serve (.unsubscribe 2) = (.unsubscribed 2, next) ∧ next.stats.subscriptions = 0 := by
  let event : Event := ⟨default, "role.created", ⟨default, 1⟩, "admin", default, 1, .null⟩
  let requests : List Request := [.subscribe "role.*", .subscribe "role.*", .subscribe "#",
    .unsubscribe 1, .drop 1, .drop 2, .unsubscribe 3, .unsubscribe 3, .subscribe "",
    .register ⟨"audit", ["role.*"]⟩, .publish event]
  have facts : (chronicle 1 requests).bus.stats = ⟨1, 1, 1, 1⟩ ∧
      (chronicle 1 requests).bus.subscriptions.get? 2 = some "role.*" ∧
      (chronicle 1 requests).bus.subscriptions.get? 3 = none ∧
      (chronicle 1 requests).bus.inboxesOf "role.created" = [] := by
    decide +kernel
  have balanced := books_balanced 1 requests
  generalize isBus : (chronicle 1 requests).bus = bus at facts balanced
  obtain ⟨stats, second, third, unheard⟩ := facts
  obtain ⟨counted, channels, subtracts, refused, -, unknown, unchanged⟩ := balanced
  have noThird : (bus.serve (.unsubscribe 3)).1.isRefusal = true := by
    rw [(unknown 3).2 third]
    rfl
  have noPattern : (bus.serve (.subscribe "")).1.isRefusal = true := by
    rw [(refused "" _).2 ⟨rfl, rfl⟩]
    rfl
  obtain ⟨next, done⟩ : ∃ next, bus.unsubscribe? 2 = some next := by
    rw [← Option.ne_none_iff_exists', ne_eq, unsubscribe?_eq_none_iff, second]
    nofun
  have served : bus.serve (.unsubscribe 2) = (.unsubscribed 2, next) := by rw [serve, done]
  have subtracted := subtracts 2 next served
  rw [stats] at subtracted
  exact ⟨requests, bus, next, isBus.symm, stats, by rw [← counted, stats],
    (channels "role.*").2 ⟨2, second⟩, unheard, unchanged _ noThird, unchanged _ noPattern, served,
    Nat.succ.inj subtracted⟩

end Bus

end Entitlement
