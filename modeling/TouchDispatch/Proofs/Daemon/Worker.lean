/-
**No gesture is lost between the keys and the thread that performs it.**

* `Workshop`: the daemon with its device and the thread that performs gestures, and an account of
  what went through the slot;
* `Shift`: what can happen, in any order: keys, reports, deeds on the settings, and the thread that
  takes a gesture out of the slot and, later, has performed it;
* `Balanced`: the account is that of the slot, and the counters in the status agree with it;
* `gestures_conserved`: **every key that comes to a gesture is taken out once, superseded by the
  next one or waiting**, and what was performed is what was taken out and the slider moves.
-/

import TouchDispatch.Proofs.Daemon.Tally
import TouchDispatch.Proofs.Gesture.Fate

namespace TouchDispatch

open Dialogue (ends_run)
open Settings (Deed Store)

/-- Whether a key comes to a gesture that is put into the slot. -/
def Verdict.isRun : Verdict → Bool
  | .gesture (.run _) => true
  | .gesture (.slide _) | .notHandled | .blocked => false

/-- Whether a key comes to a slider move. -/
def Verdict.isSlide : Verdict → Bool
  | .gesture (.slide _) => true
  | .gesture (.run _) | .notHandled | .blocked => false

/-- The daemon with its device and the thread that performs gestures. -/
structure Workshop (σ : Type) where
  core : Core
  device : σ
  /-- The order that is being performed. -/
  hand : Option Order := none
  /-- The orders that were taken out of the slot so far. -/
  taken : List Order := []
  /-- The number of keys that came to a gesture for the slot. -/
  gestures : Nat := 0
  /-- The number of keys that came to a slider move. -/
  slides : Nat := 0

/-- Something that happens in a workshop. -/
inductive Shift where
  /-- A key event is routed. -/
  | key (event : KeyEvent)
  /-- Something is reported. -/
  | report (event : Event)
  /-- A change of the settings reaches the daemon. -/
  | deliver (listener place : Nat)
  /-- Somebody works on the settings. -/
  | settings (deed : Deed)
  /-- The thread waits for an order, unless one is being performed. -/
  | take
  /-- The thread looks for an order, unless one is being performed. -/
  | tryTake
  /-- The thread has performed its order. -/
  | finish
  /-- Nothing more will come through the slot. -/
  | close

namespace Workshop

variable {σ : Type} (host : Host σ)

/-- The workshop after a step of the daemon. -/
def step (shop : Workshop σ) (step : Step) : Workshop σ :=
  let outcome := (shop.core.step step).run host shop.device
  { shop with core := outcome.1, device := outcome.2 }

/-- The workshop with the slot used, and with the order that it hands out in hand. -/
def use (shop : Workshop σ) (use : Slot.Use) : Workshop σ :=
  let (yield, slot) := shop.core.slot.use use
  { shop with
    core := { shop.core with slot }
    hand := yield.handed?
    taken := shop.taken ++ yield.handed?.toList }

/-- The workshop after something happened. -/
def next (shop : Workshop σ) : Shift → Workshop σ
  | .key event =>
    let ruling := shop.core.ruling host shop.device event
    { shop.step host (.key event) with
      gestures := shop.gestures + if ruling.isRun then 1 else 0
      slides := shop.slides + if ruling.isSlide then 1 else 0 }
  | .report event => shop.step host (.report event)
  | .deliver listener place => shop.step host (.deliver listener place)
  | .settings deed => shop.step host (.settings deed)
  | .take => if shop.hand.isSome then shop else shop.use .take
  | .tryTake => if shop.hand.isSome then shop else shop.use .tryTake
  | .finish =>
    match shop.hand with
    | some order => { shop.step host (.dispatch order.gesture) with hand := none }
    | none => shop
  | .close => { shop with core := { shop.core with slot := shop.core.slot.close } }

/-- The workshop after everything that happened. -/
def after (shop : Workshop σ) (shifts : List Shift) : Workshop σ :=
  shifts.foldl (next host) shop

/-- The workshop in which the daemon has just come up. -/
def opening (device : σ) (disk : Disk) (store : Store) (presence : Presence)
    (switches : Option Switches) : Workshop σ :=
  let session := Session.opening host device disk store presence switches
  { core := session.core, device := session.device }

/-- The account of the workshop is that of its slot, and the counters agree with it. -/
structure Balanced (shop : Workshop σ) (uses : List Slot.Use) : Prop where
  slot : shop.core.slot = Slot.after {} uses
  taken : shop.taken = (Slot.yields {} uses).filterMap Slot.Yield.handed?
  gestures : shop.gestures = (Slot.submissions uses).length
  superseded : shop.core.status.counters.superseded = Slot.losses (Slot.yields {} uses)
  dispatched : shop.core.status.counters.dispatched + (if shop.hand.isSome then 1 else 0) =
    shop.taken.length + shop.slides

variable {host} {shop : Workshop σ} {uses : List Slot.Use}

/-- A step that leaves the tally alone keeps the balance. -/
theorem Balanced.step (balanced : shop.Balanced uses) {step : Step}
    (same : ((shop.core.step step).run host shop.device).1.tally = shop.core.tally) :
    (shop.step host step).Balanced uses := by
  obtain ⟨slot, dispatched, superseded⟩ := (Tally.mk.injEq ..).mp same
  refine ⟨slot.trans balanced.slot, balanced.taken, balanced.gestures,
    superseded.trans balanced.superseded, ?_⟩
  show ((shop.core.step step).run host shop.device).1.status.counters.dispatched + _ = _
  rw [dispatched]
  exact balanced.dispatched

/-- A use of the slot keeps the balance, if it is entered in the account. -/
theorem Balanced.used {next : Workshop σ} (balanced : shop.Balanced uses) (use : Slot.Use)
    (slot : next.core.slot = (shop.core.slot.use use).2)
    (taken : next.taken = shop.taken ++ (shop.core.slot.use use).1.handed?.toList)
    (gestures : next.gestures = shop.gestures + (Slot.submissions [use]).length)
    (superseded : next.core.status.counters.superseded =
      shop.core.status.counters.superseded + Slot.losses [(shop.core.slot.use use).1])
    (dispatched : next.core.status.counters.dispatched + (if next.hand.isSome then 1 else 0) =
      next.taken.length + next.slides) : next.Balanced (uses ++ [use]) := by
  have last : Slot.yields {} (uses ++ [use]) =
      Slot.yields {} uses ++ [(shop.core.slot.use use).1] := by
    rw [Slot.yields_append, ← balanced.slot]
    rfl
  refine ⟨?_, ?_, ?_, ?_, dispatched⟩
  · rw [slot, Slot.after_append, ← balanced.slot]
    rfl
  · rw [taken, last, List.filterMap_append, ← balanced.taken]
    cases handed : (shop.core.slot.use use).1.handed? <;> simp [handed]
  · rw [gestures, Slot.submissions_append, List.length_append, balanced.gestures]
  · rw [superseded, last, Slot.losses_append, balanced.superseded]

/-- A key that comes to a gesture for the slot. -/
theorem Balanced.submit (balanced : shop.Balanced uses) {step : Step} {order : Order}
    (submitted : ((shop.core.step step).run host shop.device).1.tally =
      shop.core.tally.submit order) :
    { shop.step host step with gestures := shop.gestures + 1 }.Balanced
      (uses ++ [Slot.Use.submit order]) := by
  obtain ⟨slot, dispatched, superseded⟩ := (Tally.mk.injEq ..).mp submitted
  refine balanced.used (.submit order) slot (List.append_nil _).symm rfl ?_ ?_
  · rw [Slot.losses_submit]
    exact superseded
  · show ((shop.core.step step).run host shop.device).1.status.counters.dispatched + _ = _
    rw [dispatched]
    exact balanced.dispatched

/-- A key that comes to a slider move is performed at once. -/
theorem Balanced.slide (balanced : shop.Balanced uses) {step : Step}
    (performed : ((shop.core.step step).run host shop.device).1.tally =
      shop.core.tally.perform) :
    { shop.step host step with slides := shop.slides + 1 }.Balanced uses := by
  obtain ⟨slot, dispatched, superseded⟩ := (Tally.mk.injEq ..).mp performed
  refine ⟨slot.trans balanced.slot, balanced.taken, balanced.gestures,
    superseded.trans balanced.superseded, ?_⟩
  have before := balanced.dispatched
  show ((shop.core.step step).run host shop.device).1.status.counters.dispatched + _ =
    shop.taken.length + (shop.slides + 1)
  rw [dispatched, ← Nat.add_assoc, ← before]
  exact Nat.add_right_comm ..

/-- What the slot hands out is being performed. -/
theorem Balanced.take (balanced : shop.Balanced uses) (idle : shop.hand = none) {use : Slot.Use}
    (taking : use = .take ∨ use = .tryTake) : (shop.use use).Balanced (uses ++ [use]) := by
  have before := balanced.dispatched
  rw [idle] at before
  refine balanced.used use rfl rfl ?_ ?_ ?_
  · rcases taking with rfl | rfl
    · rfl
    · rfl
  · rcases taking with rfl | rfl
    · rfl
    · rfl
  · show shop.core.status.counters.dispatched +
        (if (shop.core.slot.use use).1.handed?.isSome then 1 else 0) =
      (shop.taken ++ (shop.core.slot.use use).1.handed?.toList).length + shop.slides
    rw [List.length_append, Nat.add_right_comm, ← before]
    cases (shop.core.slot.use use).1.handed? with
    | none => rfl
    | some order => rfl

/-- What was performed is counted. -/
theorem Balanced.finish (balanced : shop.Balanced uses) {order : Order}
    (busy : shop.hand = some order) :
    { shop.step host (.dispatch order.gesture) with hand := none }.Balanced uses := by
  have performed : ((shop.core.step (.dispatch order.gesture)).run host shop.device).1.tally =
      shop.core.tally.perform :=
    Core.dispatch_tally (ends_run host _ shop.device)
  obtain ⟨slot, dispatched, superseded⟩ := (Tally.mk.injEq ..).mp performed
  have before := balanced.dispatched
  rw [busy] at before
  refine ⟨slot.trans balanced.slot, balanced.taken, balanced.gestures,
    superseded.trans balanced.superseded, ?_⟩
  exact dispatched.trans before

/-- **Whatever happens, the balance is kept.** -/
theorem Balanced.next (balanced : shop.Balanced uses) (shift : Shift) :
    ∃ uses, (shop.next host shift).Balanced uses := by
  cases shift with
  | key event =>
    have tally := Core.key_tally host shop.device shop.core event
    unfold Workshop.next
    dsimp only
    cases ruling : shop.core.ruling host shop.device event with
    | notHandled =>
      rw [ruling] at tally
      exact ⟨uses, balanced.step tally⟩
    | blocked =>
      rw [ruling] at tally
      exact ⟨uses, balanced.step tally⟩
    | gesture gesture =>
      cases gesture with
      | slide position =>
        rw [ruling] at tally
        exact ⟨uses, balanced.slide tally⟩
      | run action =>
        rw [ruling] at tally
        obtain ⟨now, submitted⟩ := tally
        exact ⟨_, balanced.submit submitted⟩
  | report event =>
    exact ⟨uses, balanced.step (Core.report_tally (ends_run host _ shop.device))⟩
  | deliver listener place =>
    exact ⟨uses, balanced.step (Core.deliver_tally (ends_run host _ shop.device))⟩
  | settings deed => exact ⟨uses, balanced.step rfl⟩
  | take =>
    by_cases busy : shop.hand.isSome = true
    · have same : shop.next host .take = shop := if_pos busy
      rw [same]
      exact ⟨uses, balanced⟩
    · have used : shop.next host .take = shop.use .take := if_neg busy
      rw [used]
      exact ⟨_, balanced.take (Option.not_isSome_iff_eq_none.mp busy) (Or.inl rfl)⟩
  | tryTake =>
    by_cases busy : shop.hand.isSome = true
    · have same : shop.next host .tryTake = shop := if_pos busy
      rw [same]
      exact ⟨uses, balanced⟩
    · have used : shop.next host .tryTake = shop.use .tryTake := if_neg busy
      rw [used]
      exact ⟨_, balanced.take (Option.not_isSome_iff_eq_none.mp busy) (Or.inr rfl)⟩
  | finish =>
    unfold Workshop.next
    dsimp only
    split
    · next order busy => exact ⟨uses, balanced.finish busy⟩
    · exact ⟨uses, balanced⟩
  | close =>
    refine ⟨_, balanced.used .close rfl (List.append_nil _).symm rfl rfl ?_⟩
    exact balanced.dispatched

theorem balanced_opening (host : Host σ) (device : σ) (disk : Disk) (store : Store)
    (presence : Presence) (switches : Option Switches) :
    (opening host device disk store presence switches).Balanced [] := by
  have core := Session.opening_core host device disk store presence switches
  refine ⟨congrArg Core.slot core, rfl, rfl, ?_, ?_⟩
  · exact congrArg (·.status.counters.superseded) core
  · exact congrArg (·.status.counters.dispatched) core

theorem balanced_after (host : Host σ) (shop : Workshop σ) {uses : List Slot.Use}
    (balanced : shop.Balanced uses) (shifts : List Shift) :
    ∃ uses, (shop.after host shifts).Balanced uses := by
  induction shifts generalizing shop uses with
  | nil => exact ⟨uses, balanced⟩
  | cons shift rest ih =>
    obtain ⟨_, next⟩ : ∃ uses, (shop.next host shift).Balanced uses := balanced.next shift
    exact ih _ next

end Workshop

/-- **No gesture is lost, performed twice or out of turn.** Whatever is done with a slot, each order
that is put in has one of three fates. And whatever happens to the daemon, the keys that came to a
gesture for the slot are as many as were taken out, superseded and wait; what was taken out is what
the slot handed out, and all of it but what is being performed is counted, together with the slider
moves. -/
theorem gestures_conserved {σ : Type} (host : Host σ) (device : σ) (disk : Disk) (store : Store)
    (presence : Presence) (switches : Option Switches) (shifts : List Shift) :
    (∀ uses, Slot.Accounted uses) ∧
    let shop := (Workshop.opening host device disk store presence switches).after host shifts
    let counters := shop.core.status.counters
    (∃ uses, shop.core.slot = Slot.after {} uses ∧
      shop.taken = (Slot.yields {} uses).filterMap Slot.Yield.handed?) ∧
    shop.gestures = shop.taken.length + counters.superseded +
      (if shop.core.slot.isPending then 1 else 0) ∧
    counters.dispatched + (if shop.hand.isSome then 1 else 0) =
      shop.taken.length + shop.slides := by
  refine ⟨Slot.orders_accounted, ?_⟩
  intro shop counters
  obtain ⟨uses, balanced⟩ : ∃ uses, shop.Balanced uses :=
    Workshop.balanced_after host _
      (Workshop.balanced_opening host device disk store presence switches) shifts
  refine ⟨⟨uses, balanced.slot, balanced.taken⟩, ?_, balanced.dispatched⟩
  rw [balanced.gestures, (Slot.orders_accounted uses).counted, ← balanced.taken,
    ← balanced.superseded, ← balanced.slot]

end TouchDispatch
