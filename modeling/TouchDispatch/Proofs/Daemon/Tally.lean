/-
**What is counted of gestures.**

* `Core.tally`: the slot, and how many gestures were performed and superseded;
* `dispatch_tally`: a gesture that is performed is counted once, and the slot is left alone;
* `report_tally`, `deliver_tally`: reports leave the tally alone;
* `Core.ruling`, `key_tally`: **what a key comes to decides what becomes of the tally**: a gesture
  is put into the slot, a slider move is performed at once, and all other keys leave it alone.
-/

import TouchDispatch.Proofs.Daemon.Aftermath

namespace TouchDispatch

open Dialogue

/-- The slot, and how many gestures were performed and superseded. -/
structure Tally where
  slot : Slot
  dispatched : Nat
  superseded : Nat

namespace Tally

/-- The tally after a gesture was performed. -/
def perform (tally : Tally) : Tally :=
  { tally with dispatched := tally.dispatched + 1 }

/-- The tally after an order was put into the slot. -/
def submit (tally : Tally) (order : Order) : Tally :=
  { tally with
    slot := (tally.slot.submit order).2
    superseded := tally.superseded + if tally.slot.isPending then 1 else 0 }

end Tally

namespace Core

variable {core next : Core} {exchanges : List Exchange}

/-- The slot, and how many gestures were performed and superseded. -/
def tally (core : Core) : Tally :=
  ⟨core.slot, core.status.counters.dispatched, core.status.counters.superseded⟩

/-! ### Performing gestures and reports -/

/-- **A gesture that is performed is counted once.** -/
theorem dispatch_tally {gesture : Gesture} (ends : (core.dispatch gesture).Ends exchanges next) :
    next.tally = core.tally.perform := by
  obtain ⟨_, time, ⟨_, _, _, rfl⟩, _, rfl⟩ := ends_dispatch ends
  rfl

/-- **Reports leave the tally alone.** -/
theorem report_tally {event : Event} (ends : (core.step (.report event)).Ends exchanges next) :
    next.tally = core.tally := by
  cases aftermath ends with
  | sensors _ sensed =>
    obtain ⟨_, _, _, _, _, _, _, rfl⟩ := sensed
    rfl
  | torch =>
    unfold torchReported
    split
    · rfl
    · rfl
  | shutdown | change => rfl

theorem deliver_tally {listener place : Nat}
    (ends : (core.step (.deliver listener place)).Ends exchanges next) :
    next.tally = core.tally := by
  cases aftermath ends with
  | torch torch => cases torch
  | read | deliver => rfl

/-! ### Keys -/

section Keys

variable {σ : Type} (host : Host σ) (device : σ) (core : Core) (event : KeyEvent)

/-- What a key event comes to on a device. A key that is swallowed is not even looked at. -/
def ruling : Verdict :=
  if core.swallows event.code then .notHandled
  else ((core.classify event).run host device).1

/-- After the key was handled, only questions about it are left. -/
theorem route_run : ((core.route event).run host device).1.2 =
    ((core.handleKey event).run host device).1.2 := by
  unfold route
  rw [run_bind]
  rcases ((core.handleKey event).run host device).1 with ⟨handled, next⟩
  dsimp only
  split
  · rfl
  · split
    · rfl
    · split
      · rfl
      · split
        · rfl
        · rfl

theorem submit_tally (gesture : Gesture) : ∃ now,
    ((core.submit gesture).run host device).1.tally = core.tally.submit ⟨gesture, now⟩ := by
  unfold submit
  rw [run_bind]
  refine ⟨(Dialogue.now.run host device).1, ?_⟩
  unfold Tally.submit Slot.isPending tally Slot.submit
  dsimp only
  cases core.slot.pending with
  | none => rfl
  | some order => rfl

/-- **What a key comes to decides what becomes of the tally.** -/
theorem key_tally :
    let next := ((core.step (.key event)).run host device).1
    match core.ruling host device event with
    | .gesture (.run action) => ∃ now, next.tally = core.tally.submit ⟨.run action, now⟩
    | .gesture (.slide _) => next.tally = core.tally.perform
    | .notHandled | .blocked => next.tally = core.tally := by
  intro next
  have same : next = ((core.handleKey event).run host device).1.2 := by
    rw [← route_run]
    exact congrArg Prod.fst (run_bind host _ _ _)
  rw [same]
  unfold ruling handleKey
  by_cases swallowed : core.swallows event.code = true
  · rw [if_pos swallowed, if_pos swallowed]
    rfl
  · rw [if_neg swallowed, if_neg swallowed, run_bind]
    generalize (core.classify event).run host device = classified
    obtain ⟨verdict, device⟩ := classified
    cases verdict with
    | notHandled => rfl
    | blocked => rfl
    | gesture gesture =>
      cases gesture with
      | slide position =>
        rw [run_bind]
        exact dispatch_tally (ends_run host _ device)
      | run action =>
        rw [run_bind]
        exact submit_tally host device core _

end Keys

end Core

end TouchDispatch
