/-
This file says what becomes of a subscription that is given up. Giving it up removes its number from
the bus, but not its inbox from the channel of its pattern, and that channel goes away only when no
subscription to the pattern is left. So events come to the inbox for just as long as there always
was another subscription to the pattern (`Happening.Lingers`), and from then on never again.
-/

import Entitlement.Proofs.Delivery
import Mathlib.Data.List.Pairwise

namespace Entitlement

namespace Bus

/-! ### Reading who is still attached -/

namespace Happening

/-- The pattern of a subscription that was not given up, whether or not its receiver was dropped. -/
def standing? (number : Nat) : List Happening → Option String
  | [] => none
  | subscribed other pattern :: past =>
    if other = number then some pattern else standing? number past
  | unsubscribed other :: past => if other = number then none else standing? number past
  | _ :: past => standing? number past

/-- Whether there is a subscription to the pattern. -/
def Stands (pattern : String) (past : List Happening) : Prop :=
  ∃ number, standing? number past = some pattern

/-- Whether the receiver of a number is attached to the channel of the pattern: since it subscribed
it was not dropped, and whenever someone gave up there was a subscription to the pattern left. -/
def Attached (number : Nat) (pattern : String) : List Happening → Prop
  | [] => False
  | subscribed other own :: past =>
    (other = number ∧ own = pattern) ∨ Attached number pattern past
  | unsubscribed other :: past =>
    Attached number pattern past ∧ Stands pattern (unsubscribed other :: past)
  | dropped other :: past => other ≠ number ∧ Attached number pattern past
  | _ :: past => Attached number pattern past

/-- Whether events still come to a subscription that was given up after `before`: its receiver was
not dropped, and at all times since then there was a subscription to its pattern. -/
def Lingers (number : Nat) (pattern : String) (since before : List Happening) : Prop :=
  open? number before = some pattern ∧ dropped number ∉ since ∧
    ∀ later, later <:+ since → Stands pattern (later ++ unsubscribed number :: before)

/-- Whether the two are not subscriptions under the same number. -/
def Apart (later earlier : Happening) : Prop :=
  ∀ number own other, later = subscribed number own → earlier ≠ subscribed number other

instance : Std.Symm Apart :=
  ⟨fun _ _ apart number own other later earlier => apart number other own earlier later⟩

/-- Whether no number was given to two subscriptions. -/
def Distinct : List Happening → Prop :=
  List.Pairwise Apart

variable {number : Nat} {pattern : String} {happening : Happening}
  {past since before : List Happening}

/-- A subscription that was not given up is attached if its receiver was not dropped. -/
theorem attached_iff_open? (stands : standing? number past = some pattern) :
    Attached number pattern past ↔ open? number past = some pattern := by
  induction past with
  | nil => cases stands
  | cons happening past inductionHypothesis =>
    cases happening with
    | subscribed other own =>
      unfold standing? at stands
      unfold Attached open?
      split at stands
      · next same =>
        rw [if_pos same]
        simp [same, Option.some.inj stands]
      · next apart =>
        rw [if_neg apart, inductionHypothesis stands]
        simp [apart]
    | unsubscribed other =>
      obtain ⟨apart, stood⟩ := Option.ite_none_left_eq_some.1 stands
      unfold Attached open?
      rw [if_neg apart, inductionHypothesis stood]
      exact and_iff_left ⟨number, stands⟩
    | dropped other =>
      unfold Attached open?
      rw [inductionHypothesis stands]
      exact Option.ite_none_left_eq_some.symm
    | refused | stopped | unknown | registered | published | received =>
      exact inductionHypothesis stands

theorem mem_subscribed_of_standing? (stands : standing? number past = some pattern) :
    subscribed number pattern ∈ past := by
  induction past with
  | nil => cases stands
  | cons happening past inductionHypothesis =>
    cases happening with
    | subscribed other own =>
      unfold standing? at stands
      split at stands
      · next same =>
        rw [same, Option.some.inj stands]
        exact List.mem_cons_self
      · exact List.mem_cons_of_mem _ (inductionHypothesis stands)
    | unsubscribed other =>
      exact List.mem_cons_of_mem _
        (inductionHypothesis (Option.ite_none_left_eq_some.1 stands).2)
    | dropped | refused | stopped | unknown | registered | published | received =>
      exact List.mem_cons_of_mem _ (inductionHypothesis stands)

/-- Who subscribes under a number of their own takes no subscription away. -/
theorem Stands.subscribed {other : Nat} {own : String} (stands : Stands pattern past)
    (new : ∀ another, Happening.subscribed other another ∉ past) :
    Stands pattern (Happening.subscribed other own :: past) := by
  obtain ⟨number, stands⟩ := stands
  refine ⟨number, ?_⟩
  unfold standing?
  rw [if_neg, stands]
  rintro rfl
  exact new pattern (mem_subscribed_of_standing? stands)

theorem Lingers.stands (lingers : Lingers number pattern since before) :
    Stands pattern (since ++ unsubscribed number :: before) :=
  lingers.2.2 since (List.suffix_refl since)

theorem lingers_cons : Lingers number pattern (happening :: since) before ↔
    Lingers number pattern since before ∧ happening ≠ dropped number ∧
      Stands pattern (happening :: (since ++ unsubscribed number :: before)) := by
  unfold Lingers
  simp only [List.suffix_cons_iff, List.mem_cons, not_or, or_imp, forall_and, forall_eq,
    List.cons_append, ne_eq, eq_comm (a := dropped number)]
  tauto

/-- After its subscription was given up a receiver is attached as long as it lingers. -/
theorem attached_iff_lingers (stood : standing? number before = some pattern)
    (distinct : Distinct (since ++ unsubscribed number :: before)) :
    Attached number pattern (since ++ unsubscribed number :: before) ↔
      Lingers number pattern since before := by
  induction since with
  | nil =>
    show Attached number pattern before ∧ _ ↔ _
    rw [attached_iff_open? stood]
    unfold Lingers
    simp
  | cons happening since inductionHypothesis =>
    obtain ⟨apart, distinct⟩ := List.pairwise_cons.1 distinct
    have same := inductionHypothesis distinct
    rw [lingers_cons, ← same]
    have stands := fun attached => (same.1 attached).stands
    cases happening with
    | subscribed other own =>
      have new : ∀ another, subscribed other another ∉ since ++ unsubscribed number :: before :=
        fun another member => apart _ member other own another rfl rfl
      have notOwn : other ≠ number := by
        rintro rfl
        refine new pattern (List.mem_append_right _ (List.mem_cons_of_mem _ ?_))
        exact mem_subscribed_of_standing? stood
      show (_ ∧ _) ∨ _ ↔ _
      simp only [notOwn, false_and, false_or]
      exact ⟨fun attached => ⟨attached, nofun, (stands attached).subscribed new⟩, And.left⟩
    | unsubscribed other =>
      show _ ∧ _ ↔ _
      simp
    | dropped other =>
      show _ ∧ _ ↔ _
      constructor
      · rintro ⟨notOwn, attached⟩
        refine ⟨attached, ?_, stands attached⟩
        rintro ⟨⟩
        exact notOwn rfl
      · rintro ⟨attached, notOwn, -⟩
        refine ⟨?_, attached⟩
        rintro rfl
        exact notOwn rfl
    | refused | stopped | unknown | registered | published | received =>
      exact ⟨fun attached => ⟨attached, nofun, stands attached⟩, And.left⟩

/-- What did not linger earlier does not later. -/
theorem Lingers.of_append {after : List Happening}
    (lingers : Lingers number pattern (after ++ since) before) :
    Lingers number pattern since before := by
  obtain ⟨isOpen, kept, stands⟩ := lingers
  refine ⟨isOpen, fun member => kept (List.mem_append_right _ member), fun later suffix => ?_⟩
  exact stands later (suffix.trans (List.suffix_append ..))

theorem Attached.mem_subscribed (attached : Attached number pattern past) :
    subscribed number pattern ∈ past := by
  induction past with
  | nil => exact attached.elim
  | cons happening past inductionHypothesis =>
    cases happening with
    | subscribed other own =>
      rcases attached with ⟨rfl, rfl⟩ | attached
      · exact List.mem_cons_self
      · exact List.mem_cons_of_mem _ (inductionHypothesis attached)
    | unsubscribed other => exact List.mem_cons_of_mem _ (inductionHypothesis attached.1)
    | dropped other => exact List.mem_cons_of_mem _ (inductionHypothesis attached.2)
    | refused | stopped | unknown | registered | published | received =>
      exact List.mem_cons_of_mem _ (inductionHypothesis attached)

/-- A number has one pattern. -/
theorem Distinct.unique (distinct : Distinct past) {own : String}
    (member : subscribed number pattern ∈ past) (again : subscribed number own ∈ past) :
    own = pattern := by
  by_contra differs
  refine List.Pairwise.forall distinct again member ?_ number own pattern rfl rfl
  exact fun same => differs (Happening.subscribed.inj same).2

/-- Whoever is attached shares the pattern with a subscription that was not given up. -/
theorem Attached.stands (attached : Attached number pattern past) (distinct : Distinct past) :
    Stands pattern past := by
  induction past with
  | nil => exact attached.elim
  | cons happening past inductionHypothesis =>
    obtain ⟨apart, earlier⟩ := List.pairwise_cons.1 distinct
    cases happening with
    | subscribed other own =>
      rcases attached with ⟨-, rfl⟩ | attached
      · exact ⟨other, if_pos rfl⟩
      · exact (inductionHypothesis attached earlier).subscribed
          fun another member => apart _ member other own another rfl rfl
    | unsubscribed other => exact attached.2
    | dropped other => exact inductionHypothesis attached.2 earlier
    | refused | stopped | unknown | registered | published | received =>
      exact inductionHypothesis attached earlier

end Happening

/-! ### The channels tell who is attached -/

variable {bus next : Bus} {past : List Happening} {happening : Happening} {number : Nat}
  {pattern : String}

/-- A bus that feeds those who are attached by its history. -/
structure Traced (past : List Happening) (bus : Bus) : Prop where
  subscriptions : ∀ number, bus.subscriptions.get? number = Happening.standing? number past
  attached : ∀ number pattern, bus.Feeds pattern number ↔ Happening.Attached number pattern past
  bounded : ∀ number pattern, Happening.subscribed number pattern ∈ past →
    number ≤ bus.lastSubscription
  distinct : Happening.Distinct past
  /-- Who gave up a subscription had it. -/
  stood : ∀ number before, Happening.unsubscribed number :: before <:+ past →
    ∃ pattern, Happening.standing? number before = some pattern

namespace Traced

theorem ofCapacity (capacity : Nat) : Traced [] (ofCapacity capacity) where
  subscriptions _ := rfl
  attached number pattern := by
    refine iff_of_false ?_ id
    rintro ⟨numbers, found, -⟩
    cases found
  bounded _ _ member := by cases member
  distinct := List.Pairwise.nil
  stood _ _ suffix := by cases List.eq_nil_of_suffix_nil suffix

variable (traced : Traced past bus)

include traced

/-- What is neither a subscription nor the end of one. -/
theorem cons (subscriptions : ∀ number, next.subscriptions.get? number =
      Happening.standing? number (happening :: past))
    (attached : ∀ number pattern, next.Feeds pattern number ↔
      Happening.Attached number pattern (happening :: past))
    (last : next.lastSubscription = bus.lastSubscription)
    (notNew : ∀ number pattern, happening ≠ .subscribed number pattern)
    (stood : ∀ number, happening = .unsubscribed number →
      ∃ pattern, Happening.standing? number past = some pattern) :
    Traced (happening :: past) next where
  subscriptions := subscriptions
  attached := attached
  bounded number pattern member := by
    rcases List.mem_cons.1 member with rfl | earlier
    · exact absurd rfl (notNew number pattern)
    · exact last ▸ traced.bounded number pattern earlier
  distinct := List.pairwise_cons.2
    ⟨fun _ _ number own _ same => absurd same (notNew number own), traced.distinct⟩
  stood number before suffix := by
    rcases List.suffix_cons_iff.1 suffix with same | earlier
    · obtain ⟨rfl, rfl⟩ := List.cons.inj same
      exact stood number rfl
    · exact traced.stood number before earlier

theorem subscribe (done : bus.subscribe pattern = .ok (number, next)) :
    Traced (.subscribed number pattern :: past) next := by
  obtain ⟨rfl, rfl⟩ := subscribe_eq_ok done
  have new : ∀ own, Happening.subscribed (bus.lastSubscription + 1) own ∉ past :=
    fun own member => Nat.not_succ_le_self _ (traced.bounded _ own member)
  constructor
  case subscriptions =>
    intro viewer
    rw [Happening.standing?, ← traced.subscriptions]
    exact OrderedMap.get?_insert_if ..
  case attached =>
    intro viewer own
    show (∃ numbers, _ = some numbers ∧ _) ↔ _ ∨ _
    rw [feeds_insert, ← traced.attached, or_comm]
    refine or_congr_left ?_
    rw [and_comm, eq_comm, eq_comm (a := own)]
  case bounded =>
    intro viewer own member
    rcases List.mem_cons.1 member with same | earlier
    · exact (Happening.subscribed.inj same).1.le
    · exact Nat.le_succ_of_le (traced.bounded viewer own earlier)
  case distinct =>
    refine List.pairwise_cons.2 ⟨fun earlier member viewer own other same => ?_, traced.distinct⟩
    rintro rfl
    obtain ⟨rfl, -⟩ := Happening.subscribed.inj same
    exact new other member
  case stood =>
    intro viewer before suffix
    rcases List.suffix_cons_iff.1 suffix with same | earlier
    · cases same
    · exact traced.stood viewer before earlier

theorem unsubscribe (done : bus.unsubscribe? number = some next) :
    Traced (.unsubscribed number :: past) next := by
  obtain ⟨pattern, found, outcome⟩ := unsubscribe?_eq_some done
  have left : ∀ viewer, (bus.subscriptions.erase number).get? viewer =
      Happening.standing? viewer (.unsubscribed number :: past) := by
    intro viewer
    rw [Happening.standing?, ← traced.subscriptions]
    exact OrderedMap.get?_erase_if ..
  have stood : ∀ viewer, Happening.unsubscribed number = .unsubscribed viewer →
      ∃ own, Happening.standing? viewer past = some own := by
    rintro viewer ⟨⟩
    exact ⟨pattern, (traced.subscriptions number).symm.trans found⟩
  -- Who is attached to the channel of another pattern has a subscription there to rely on.
  have others : ∀ viewer own, Happening.Attached viewer own past → own ≠ pattern →
      Happening.Stands own (.unsubscribed number :: past) := by
    intro viewer own attached apart
    obtain ⟨other, stands⟩ := attached.stands traced.distinct
    refine ⟨other, ?_⟩
    rw [Happening.standing?, if_neg, stands]
    rintro rfl
    rw [← traced.subscriptions, found] at stands
    exact apart (Option.some.inj stands).symm
  rcases outcome with ⟨rfl, other, kept⟩ | ⟨rfl, none⟩
  · refine traced.cons left (fun viewer own => ?_) rfl (by simp) stood
    show bus.Feeds own viewer ↔ _ ∧ _
    rw [traced.attached]
    refine (and_iff_left_of_imp fun attached => ?_).symm
    by_cases same : own = pattern
    · exact ⟨other, same ▸ (left other).symm.trans kept⟩
    · exact others viewer own attached same
  · refine traced.cons left (fun viewer own => ?_) rfl (by simp) stood
    rw [feeds_removeChannel]
    show _ ∧ bus.Feeds own viewer ↔ _ ∧ _
    rw [traced.attached, and_comm]
    refine and_congr_right fun attached => ⟨others viewer own attached, ?_⟩
    rintro ⟨other, stands⟩ rfl
    exact none other ((left other).trans stands)

theorem drop (number : Nat) : Traced (.dropped number :: past) (bus.dropInbox number) := by
  refine traced.cons traced.subscriptions (fun viewer own => ?_) rfl (by simp) (by simp)
  rw [feeds_dropInbox, traced.attached]
  exact and_congr_left' ne_comm

/-- Every request keeps the channels as the history tells. -/
theorem serve (request : Request) :
    Traced ((bus.serve request).1 :: past) (bus.serve request).2 := by
  cases request with
  | subscribe pattern =>
    simp only [Bus.serve]
    split
    · next done => exact traced.subscribe done
    · exact traced.cons traced.subscriptions traced.attached rfl (by simp) (by simp)
    · exact traced.cons traced.subscriptions traced.attached rfl (by simp) (by simp)
  | unsubscribe number =>
    simp only [Bus.serve]
    split
    · next done => exact traced.unsubscribe done
    · exact traced.cons traced.subscriptions traced.attached rfl (by simp) (by simp)
  | drop number => exact traced.drop number
  | register handler =>
    simp only [Bus.serve]
    exact traced.cons traced.subscriptions traced.attached rfl (by simp) (by simp)
  | publish event =>
    simp only [Bus.serve]
    exact traced.cons traced.subscriptions traced.attached rfl (by simp) (by simp)
  | receive number =>
    obtain ⟨inboxes, result⟩ := exists_receive_eq bus number
    simp only [Bus.serve]
    rw [result]
    exact traced.cons traced.subscriptions traced.attached rfl (by simp) (by simp)

end Traced

theorem traced_chronicle (capacity : Nat) (requests : List Request) :
    Traced (chronicle capacity requests).past (chronicle capacity requests).bus := by
  let motive (chronicle : Chronicle) := Traced chronicle.past chronicle.bus
  have start : motive ⟨ofCapacity capacity, []⟩ := Traced.ofCapacity capacity
  exact List.foldlRecOn (motive := motive) requests Chronicle.serve start
    fun _ traced request _ => traced.serve request

/-! ### Inboxes that are not fed any more -/

/-- What is queued for a subscription. -/
def queued (bus : Bus) (number : Nat) : List Event :=
  (bus.inboxes.get? number).elim [] Inbox.queued

theorem queued_eq {inbox : Inbox} (found : bus.inboxes.get? number = some inbox) :
    bus.queued number = inbox.queued := by
  unfold queued
  rw [found]
  rfl

/-- The queue of an inbox that is left alone stays behind what was received. -/
theorem prefix_of_get?_eq (got : Happening.got number (happening :: past) =
      Happening.got number past)
    (same : next.inboxes.get? number = bus.inboxes.get? number) :
    Happening.got number (happening :: past) ++ next.queued number <+:
      Happening.got number past ++ bus.queued number := by
  unfold queued
  rw [got, same]

/-- What is received comes from the front of the queue. -/
theorem got_receive_prefix (bus : Bus) (past : List Happening) (number other : Nat) :
    Happening.got number (.received other (bus.receive other).1 :: past) ++
        (bus.receive other).2.queued number <+:
      Happening.got number past ++ bus.queued number := by
  rcases receive_cases bus other with ⟨-, result⟩ | ⟨inbox, found, result⟩
  · rw [result]
    exact List.prefix_rfl
  rw [result]
  by_cases apart : other ≠ number
  · refine prefix_of_get?_eq (Happening.got_received_of_ne apart _ past) ?_
    exact (OrderedMap.get?_insert_if ..).trans (if_neg apart)
  obtain rfl := Decidable.not_not.1 apart
  rw [queued_eq found, queued_eq (OrderedMap.get?_insert_self ..)]
  unfold Inbox.receive
  split
  · exact List.prefix_rfl
  · split
    · next event rest queue =>
      rw [Happening.got, if_pos rfl, queue, List.append_assoc]
      exact List.prefix_rfl
    · split
      · exact List.prefix_rfl
      · exact List.prefix_rfl

/-- Nothing but what is queued comes to who is not fed and does not subscribe anew. -/
theorem Sound.got_serve_prefix (sound : Sound past bus)
    (unfed : ∀ pattern, ¬bus.Feeds pattern number) (known : number ≤ bus.lastSubscription)
    (request : Request) :
    Happening.got number ((bus.serve request).1 :: past) ++ (bus.serve request).2.queued number <+:
      Happening.got number past ++ bus.queued number := by
  cases request with
  | subscribe pattern =>
    simp only [Bus.serve]
    split
    · next done =>
      obtain ⟨rfl, rfl⟩ := subscribe_eq_ok done
      have apart : bus.lastSubscription + 1 ≠ number := by omega
      exact prefix_of_get?_eq (if_neg apart) ((OrderedMap.get?_insert_if ..).trans (if_neg apart))
    · exact List.prefix_rfl
    · exact List.prefix_rfl
  | unsubscribe other =>
    simp only [Bus.serve]
    split
    · next done =>
      obtain ⟨pattern, -, ⟨rfl, -⟩ | ⟨rfl, -⟩⟩ := unsubscribe?_eq_some done
      · exact List.prefix_rfl
      · exact prefix_of_get?_eq rfl (sound.get?_removeChannel_of_not_feeds (unfed pattern))
    · exact List.prefix_rfl
  | drop other =>
    by_cases apart : other ≠ number
    · exact prefix_of_get?_eq rfl ((OrderedMap.get?_erase_if ..).trans (if_neg apart))
    obtain rfl := Decidable.not_not.1 apart
    have gone : (bus.dropInbox other).inboxes.get? other = none :=
      (OrderedMap.get?_erase_if ..).trans (if_pos rfl)
    simp only [Bus.serve, queued, gone]
    rw [Option.elim_none, List.append_nil]
    exact List.prefix_append ..
  | register handler => exact List.prefix_rfl
  | publish event =>
    refine prefix_of_get?_eq rfl ?_
    have passed : number ∉ bus.inboxesOf event.topic := by
      rw [mem_inboxesOf]
      rintro ⟨pattern, -, feeds⟩
      exact unfed pattern feeds
    show (bus.publish event).2.inboxes.get? number = _
    rw [sound.get?_publish]
    simp only [if_neg passed, Option.map_id']
  | receive other => exact got_receive_prefix bus past number other

/-! ### After a subscription was given up -/

section Ended

variable {since before : List Happening}

/-- A subscription that was given up is fed by its own pattern as long as it lingers. -/
theorem Traced.feeds_iff_lingers
    (traced : Traced (since ++ .unsubscribed number :: before) bus)
    (stood : Happening.standing? number before = some pattern) {own : String} :
    bus.Feeds own number ↔ own = pattern ∧ Happening.Lingers number pattern since before := by
  have member : Happening.subscribed number pattern ∈ since ++ .unsubscribed number :: before :=
    List.mem_append_right _ (List.mem_cons_of_mem _ (Happening.mem_subscribed_of_standing? stood))
  rw [traced.attached]
  constructor
  · intro attached
    obtain rfl := traced.distinct.unique member attached.mem_subscribed
    exact ⟨rfl, (Happening.attached_iff_lingers stood traced.distinct).1 attached⟩
  · rintro ⟨rfl, lingers⟩
    exact (Happening.attached_iff_lingers stood traced.distinct).2 lingers

theorem chronicle_concat (capacity : Nat) (requests : List Request) (request : Request) :
    chronicle capacity (requests ++ [request]) = (chronicle capacity requests).serve request :=
  List.foldl_concat ..

/-- Once a subscription that was given up does not linger any more, its receiver gets what is queued
for it then, and nothing else. -/
theorem got_of_not_lingers {capacity : Nat} {requests : List Request}
    (ended : (chronicle capacity requests).past = since ++ .unsubscribed number :: before)
    (stood : Happening.standing? number before = some pattern)
    (ceased : ¬Happening.Lingers number pattern since before) (further : List Request) :
    ∃ after, (chronicle capacity (requests ++ further)).past =
        after ++ (chronicle capacity requests).past ∧
      Happening.got number (chronicle capacity (requests ++ further)).past ++
          (chronicle capacity (requests ++ further)).bus.queued number <+:
        Happening.got number (chronicle capacity requests).past ++
          (chronicle capacity requests).bus.queued number := by
  induction further using List.reverseRecOn with
  | nil =>
    rw [List.append_nil]
    exact ⟨[], rfl, List.prefix_rfl⟩
  | append_singleton further request inductionHypothesis =>
    obtain ⟨after, grown, earlier⟩ := inductionHypothesis
    have traced := traced_chronicle capacity (requests ++ further)
    have sound := (orderly_chronicle capacity (requests ++ further)).sound
    have history := grown
    rw [ended, ← List.append_assoc] at history
    have unfed : ∀ own, ¬(chronicle capacity (requests ++ further)).bus.Feeds own number :=
      fun own feeds => ceased ((history ▸ traced).feeds_iff_lingers stood |>.1 feeds).2.of_append
    have known := traced.bounded number pattern (by
      rw [history]
      exact List.mem_append_right _
        (List.mem_cons_of_mem _ (Happening.mem_subscribed_of_standing? stood)))
    rw [← List.append_assoc, chronicle_concat]
    refine ⟨_ :: after, congrArg (_ :: ·) grown, ?_⟩
    exact (sound.got_serve_prefix unfed known request).trans earlier

/-- After a subscription was given up, a published event comes to its inbox if it matches the
pattern, the receiver is still there, and at no time since then the pattern was without another
subscription. From the first such time on nothing comes to the inbox any more, and the receiver gets
what is queued there by then at most. -/
theorem unsubscribed_delivery {capacity : Nat} {requests : List Request}
    (ended : (chronicle capacity requests).past = since ++ .unsubscribed number :: before) :
    ∃ pattern, Happening.standing? number before = some pattern ∧
      (∀ event, ∃ reached called next,
        Publication (chronicle capacity requests).past (chronicle capacity requests).bus event
          reached called next ∧
        (number ∈ reached ↔ Happening.Lingers number pattern since before ∧
          Topic.isMatch pattern event.topic = true)) ∧
      (¬Happening.Lingers number pattern since before → ∀ further,
        let later := chronicle capacity (requests ++ further)
        Happening.got number later.past ++ later.bus.queued number <+:
          Happening.got number (chronicle capacity requests).past ++
            (chronicle capacity requests).bus.queued number ∧
        ∀ event, ∃ reached called next,
          Publication later.past later.bus event reached called next ∧ number ∉ reached) := by
  have traced := traced_chronicle capacity requests
  have sound := (orderly_chronicle capacity requests).sound
  obtain ⟨pattern, stood⟩ := traced.stood number before (ended ▸ List.suffix_append ..)
  refine ⟨pattern, stood, fun event => ⟨_, _, _, sound.publication event, ?_⟩,
    fun ceased further => ?_⟩
  · rw [mem_inboxesOf]
    simp only [(ended ▸ traced).feeds_iff_lingers stood]
    constructor
    · rintro ⟨own, isMatch, rfl, lingers⟩
      exact ⟨lingers, isMatch⟩
    · rintro ⟨lingers, isMatch⟩
      exact ⟨pattern, isMatch, rfl, lingers⟩
  · obtain ⟨after, grown, queue⟩ := got_of_not_lingers ended stood ceased further
    rw [ended, ← List.append_assoc] at grown
    refine ⟨queue, fun event => ⟨_, _, _,
      (orderly_chronicle capacity (requests ++ further)).sound.publication event, ?_⟩⟩
    rw [mem_inboxesOf]
    rintro ⟨own, -, feeds⟩
    have later := grown ▸ traced_chronicle capacity (requests ++ further)
    exact ceased (later.feeds_iff_lingers stood |>.1 feeds).2.of_append

/-- The first of two subscribers to one pattern gives up and is still sent what is published, until
the second gives up too. -/
theorem unsubscribed_delivery_until_last :
    ∃ (requests : List Request) (since before : List Happening),
      (chronicle 1 requests).past = since ++ .unsubscribed 1 :: before ∧
      (chronicle 1 requests).bus.stats = ⟨2, 2, 0, 0⟩ ∧
      ((chronicle 1 requests).bus.queued 1).map Event.topic = ["role.created"] ∧
      ¬Happening.Lingers 1 "role.*" since before ∧
      ∀ further,
        Happening.got 1 (chronicle 1 (requests ++ further)).past ++
            (chronicle 1 (requests ++ further)).bus.queued 1 <+:
          Happening.got 1 (chronicle 1 requests).past ++ (chronicle 1 requests).bus.queued 1 := by
  let event (topic : String) : Event :=
    ⟨default, topic, ⟨default, 1⟩, "admin", default, 1, .null⟩
  let requests : List Request := [.subscribe "role.*", .subscribe "role.*", .unsubscribe 1,
    .publish (event "role.created"), .unsubscribe 2, .publish (event "role.dropped")]
  let early : List Happening := [.published (event "role.created") []]
  let before : List Happening := [.subscribed 2 "role.*", .subscribed 1 "role.*"]
  have ended : (chronicle 1 requests).past =
      (.published (event "role.dropped") [] :: .unsubscribed 2 :: early) ++
        .unsubscribed 1 :: before := rfl
  have ceased : ¬Happening.Lingers 1 "role.*"
      (.published (event "role.dropped") [] :: .unsubscribed 2 :: early) before := by
    rintro ⟨-, -, stands⟩
    obtain ⟨number, isLeft⟩ := stands (.unsubscribed 2 :: early) (List.suffix_cons ..)
    simp only [early, before, List.cons_append, List.nil_append, Happening.standing?] at isLeft
    obtain ⟨notSecond, isLeft⟩ := Option.ite_none_left_eq_some.1 isLeft
    obtain ⟨notFirst, isLeft⟩ := Option.ite_none_left_eq_some.1 isLeft
    rw [if_neg notSecond, if_neg notFirst] at isLeft
    cases isLeft
  obtain ⟨pattern, stood, -, ends⟩ := unsubscribed_delivery ended
  obtain rfl : "role.*" = pattern := Option.some.inj stood
  refine ⟨requests, _, before, ended, ?_, ?_, ceased, fun further => (ends ceased further).1⟩
  · decide +kernel
  · decide +kernel

/-- One of two subscribers to a pattern gives up. The next event is counted as delivered to both and
is received by the one that gave up. -/
theorem unsubscribed_still_served :
    ∃ (requests : List Request) (event : Event) (before : List Happening),
      (chronicle 1 requests).past = [.published event []] ++ .unsubscribed 1 :: before ∧
      (chronicle 1 requests).bus.stats = ⟨1, 2, 1, 0⟩ ∧
      Happening.got 1 (chronicle 1 requests).past = [] ∧
      (Happening.got 1 (chronicle 1 (requests ++ [.receive 1])).past).map Event.topic =
        [event.topic] := by
  let event : Event := ⟨default, "role.created", ⟨default, 1⟩, "admin", default, 1, .null⟩
  let requests : List Request :=
    [.subscribe "role.*", .subscribe "role.*", .unsubscribe 1, .publish event]
  refine ⟨requests, event, [.subscribed 2 "role.*", .subscribed 1 "role.*"], rfl, ?_, rfl, ?_⟩
  · decide +kernel
  · decide +kernel

end Ended

end Bus

end Entitlement
