/-
**What is seen of a workshop from outside.**

* `Workshop.step?`, `Workshop.exchanges`, `Workshop.route?`: the step of the daemon that something
  calls for, what is exchanged with the device in its course, and what becomes of a key;
* `Line`, `Workshop.diary`: all that with everything that happens;
* `next_of_step`, `next_of_idle`: what calls for a step comes to it, and nothing else does more than
  touch the slot;
* `Workshop.Alike`: two workshops that differ only in their devices and in what is only shown;
* `Alike.next`: **whatever happens, workshops stay alike if the steps that it calls for do.**
-/

import TouchDispatch.Proofs.Daemon.Alike
import TouchDispatch.Proofs.Daemon.Worker

namespace TouchDispatch

/-- What is seen when something happens in a workshop. -/
structure Line where
  shift : Shift
  exchanges : List Exchange
  /-- What becomes of a key, if it was one. -/
  route : Option Route

namespace Workshop

variable {σ τ : Type} (host : Host σ) (other : Host τ)

/-- The step of the daemon that something calls for, if any. -/
def step? (shop : Workshop σ) : Shift → Option Step
  | .key event => some (.key event)
  | .report event => some (.report event)
  | .deliver listener place => some (.deliver listener place)
  | .settings deed => some (.settings deed)
  | .finish => shop.hand.map fun order => .dispatch order.gesture
  | .take | .tryTake | .close => none

/-- What is exchanged with the device when something happens. -/
def exchanges (shop : Workshop σ) (shift : Shift) : List Exchange :=
  match shop.step? shift with
  | some step => (shop.core.step step).transcript host shop.device
  | none => []

/-- What becomes of a key. -/
def route? (shop : Workshop σ) : Shift → Option Route
  | .key event => some ((shop.core.route event).run host shop.device).1.1
  | _ => none

/-- What is seen when something happens. -/
def line (shop : Workshop σ) (shift : Shift) : Line :=
  ⟨shift, shop.exchanges host shift, shop.route? host shift⟩

/-- What is seen of everything that happens, in order. -/
def diary (shop : Workshop σ) : List Shift → List Line
  | [] => []
  | shift :: rest => shop.line host shift :: (shop.next host shift).diary rest

/-- Two workshops that differ only in their devices and in what is only shown. -/
structure Alike (same : Unseen → Unseen → Prop) (one : Workshop σ) (two : Workshop τ) : Prop where
  core : one.core.Alike same two.core
  hand : two.hand = one.hand
  taken : two.taken = one.taken

variable {host other} {same : Unseen → Unseen → Prop} {shop one : Workshop σ} {two : Workshop τ}

/-- The step that something calls for is done. -/
theorem next_of_step {shift : Shift} {step : Step} (called : shop.step? shift = some step) :
    (shop.next host shift).core = ((shop.core.step step).run host shop.device).1 ∧
      (shop.next host shift).device = ((shop.core.step step).run host shop.device).2 := by
  unfold Workshop.step? at called
  cases shift with
  | key | report | deliver | settings =>
    obtain rfl := Option.some.inj called
    exact ⟨rfl, rfl⟩
  | finish =>
    obtain ⟨order, busy, rfl⟩ := Option.map_eq_some_iff.mp called
    unfold Workshop.next
    dsimp only
    rw [busy]
    exact ⟨rfl, rfl⟩
  | take | tryTake | close => cases called

/-- What calls for no step touches the slot at most. -/
theorem next_of_idle {shift : Shift} (idle : shop.step? shift = none) :
    (shop.next host shift).device = shop.device ∧
      ∃ slot, (shop.next host shift).core = { shop.core with slot } := by
  unfold Workshop.step? at idle
  cases shift with
  | key | report | deliver | settings => cases idle
  | take | tryTake =>
    unfold Workshop.next
    dsimp only
    split
    · exact ⟨rfl, _, rfl⟩
    · exact ⟨rfl, _, rfl⟩
  | finish =>
    unfold Workshop.next
    dsimp only
    rw [Option.map_eq_none_iff.mp idle]
    exact ⟨rfl, _, rfl⟩
  | close => exact ⟨rfl, _, rfl⟩

/-- Workshops that are alike are called for the same steps. -/
theorem Alike.step? (alike : one.Alike same two) (shift : Shift) :
    two.step? shift = one.step? shift := by
  unfold Workshop.step?
  rw [alike.hand]

/-- The slot is used alike. -/
theorem Alike.use (alike : one.Alike same two) (use : Slot.Use) :
    (one.use use).Alike same (two.use use) := by
  obtain ⟨⟨unseen, core, here⟩, _, taken⟩ := alike
  have slot : two.core.slot = one.core.slot := by
    rw [core]
    rfl
  unfold Workshop.use
  rw [slot, core, taken]
  exact ⟨⟨unseen, rfl, here⟩, rfl, rfl⟩

/-- **Whatever happens, workshops stay alike if the steps that it calls for do.** -/
theorem Alike.next (alike : one.Alike same two) {shift : Shift}
    (stepped : ∀ step, one.step? shift = some step →
      ((one.core.step step).run host one.device).1.Alike same
        ((two.core.step step).run other two.device).1) :
    (one.next host shift).Alike same (two.next other shift) := by
  have working : ∀ step, one.step? shift = some step →
      (one.step host step).Alike same (two.step other step) := fun step called =>
    ⟨stepped step called, alike.hand, alike.taken⟩
  cases shift with
  | key event => exact ⟨stepped _ rfl, alike.hand, alike.taken⟩
  | report event => exact working _ rfl
  | deliver listener place => exact working _ rfl
  | settings deed => exact working _ rfl
  | take =>
    unfold Workshop.next
    dsimp only
    rw [alike.hand]
    split
    · exact alike
    · exact alike.use .take
  | tryTake =>
    unfold Workshop.next
    dsimp only
    rw [alike.hand]
    split
    · exact alike
    · exact alike.use .tryTake
  | finish =>
    have hand := alike.hand
    unfold Workshop.next
    dsimp only
    cases busy : one.hand with
    | none =>
      rw [busy] at hand
      rw [hand]
      exact alike
    | some order =>
      rw [busy] at hand
      rw [hand]
      have called : one.step? .finish = some (.dispatch order.gesture) := by
        unfold Workshop.step?
        rw [busy]
        rfl
      exact ⟨stepped _ called, rfl, alike.taken⟩
  | close =>
    obtain ⟨⟨unseen, core, here⟩, hand, taken⟩ := alike
    unfold Workshop.next
    dsimp only
    rw [core]
    exact ⟨⟨unseen, rfl, here⟩, hand, taken⟩

end Workshop

end TouchDispatch
