/-
**What comes of each step.**

* `Step.torch?`, `Step.isTorch`: the steps that report on the torch, and the gesture that switches
  it;
* `ends_torchReport`, `ends_dispatch`: a report on the torch is noted, a gesture is performed and
  recorded;
* `Aftermath`: what a step can leave behind, one case for each kind of step;
* `aftermath`: **every course of a step leaves one of these behind.**
* `lamp_kept`, `revision_kept`: what the torch and the settings have no part in.
-/

import TouchDispatch.Proofs.Daemon.Frame

namespace TouchDispatch

open Dialogue
open Settings (Change Deed)

namespace Step

/-- What a step reports of the torch of a camera. A torch that is out of reach is off. -/
def torch? : Step → Option (String × Bool)
  | .report (.torchMode camera on) => some (camera, on)
  | .report (.torchGone camera) => some (camera, false)
  | _ => none

/-- Whether a step is the gesture that switches the torch. -/
def isTorch : Step → Bool
  | .dispatch (.run .torch) => true
  | _ => false

theorem eq_of_isTorch {step : Step} (torch : step.isTorch = true) :
    step = .dispatch (.run .torch) := by
  unfold isTorch at torch
  split at torch
  · rfl
  · cases torch

end Step

variable {core next : Core} {exchanges : List Exchange}

/-- A report on the torch is taken note of, and nothing is asked. -/
theorem ends_torchReport {step : Step} {camera : String} {on : Bool}
    (torch : step.torch? = some (camera, on)) (ends : (core.step step).Ends exchanges next) :
    exchanges = [] ∧ next = core.torchReported camera on := by
  unfold Step.torch? at torch
  split at torch
  · obtain ⟨rfl, rfl⟩ := Prod.mk.inj (Option.some.inj torch)
    exact ends_pure_iff.mp ends
  · obtain ⟨rfl, rfl⟩ := Prod.mk.inj (Option.some.inj torch)
    exact ends_pure_iff.mp ends
  · cases torch

/-- **A gesture is performed and recorded.** Only the torch gesture changes more than the hold. -/
theorem ends_dispatch {gesture : Gesture} (ends : (core.dispatch gesture).Ends exchanges next) :
    ∃ performed time, core.Performed performed ∧
      (gesture ≠ .run .torch → core.Held performed) ∧
        next = performed.withStatus (·.recordGesture gesture time) := by
  cases gesture with
  | run action =>
    obtain ⟨_, performed, _, acted, recorded, rfl⟩ := ends_bind_iff.mp ends
    obtain ⟨time, _, rfl⟩ := ends_map_iff.mp recorded
    refine ⟨performed, time, (Core.act_performed core action _ _ acted).2, fun other => ?_, rfl⟩
    have apart : action ≠ .torch := fun same => other (congrArg Gesture.run same)
    have held : (core.act action).Ensures (Own .other) core.Held := Core.act_held core apart
    exact (held _ _ acted).2
  | slide position =>
    obtain ⟨_, _, _, _, rest, rfl⟩ := ends_bind_iff.mp ends
    obtain ⟨_, _, _, same, recorded, rfl⟩ := ends_bind_iff.mp rest
    obtain ⟨rfl, rfl⟩ := ends_pure_iff.mp same
    obtain ⟨time, _, rfl⟩ := ends_map_iff.mp recorded
    exact ⟨_, time, (Core.Held.refl _).performed, fun _ => .refl _, rfl⟩

/-- What a step can leave behind. -/
inductive Aftermath (core : Core) : Step → Core → Prop
  | key {event : KeyEvent} {next : Core} (handled : core.Handled next) :
      Aftermath core (.key event) next
  | sensors {event : Event} {next : Core} (sensors : event.part = .sensors)
      (sensed : core.Sensed next) : Aftermath core (.report event) next
  | torch {step : Step} {camera : String} {on : Bool} (torch : step.torch? = some (camera, on)) :
      Aftermath core step (core.torchReported camera on)
  | shutdown : Aftermath core (.report .shutdown) core
  | change {change : Change} : Aftermath core (.report (.settingsChanged change))
      (core.refreshed change)
  /-- There is nothing that the listener has not read. -/
  | read {listener place : Nat} (none : (core.store.unread listener)[place]? = none) :
      Aftermath core (.deliver listener place) core
  | deliver {listener place : Nat} {change : Change}
      (found : (core.store.unread listener)[place]? = some change) :
      Aftermath core (.deliver listener place)
        ({ core with store := core.store.handOut listener place }.refreshed change)
  | take : Aftermath core .take { core with slot := core.slot.tryTake.2 }
  | dispatch {gesture : Gesture} {performed : Core} (time : Int)
      (changed : core.Performed performed) (held : gesture ≠ .run .torch → core.Held performed) :
      Aftermath core (.dispatch gesture) (performed.withStatus (·.recordGesture gesture time))
  | settings {deed : Deed} : Aftermath core (.settings deed)
      { core with
        store := (deed.apply core.store core.disk).1
        disk := (deed.apply core.store core.disk).2 }

/-- **Every course of a step leaves one of these behind.** -/
theorem aftermath {step : Step} (ends : (core.step step).Ends exchanges next) :
    Aftermath core step next := by
  cases step with
  | key event =>
    obtain ⟨answer, routed, rfl⟩ := ends_map_iff.mp ends
    have handled : (core.route event).Ensures (Own .other) fun answer => core.Handled answer.2 :=
      Core.route_handled core event
    exact .key (handled _ _ routed).2
  | report event =>
    cases event with
    | display | proximity | tilt =>
      obtain ⟨answer, handled, rfl⟩ := ends_map_iff.mp ends
      exact .sensors rfl (Core.handle_sensed core rfl _ _ handled).2
    | torchMode camera on =>
      obtain ⟨rfl, rfl⟩ := ends_pure_iff.mp ends
      exact .torch rfl
    | torchGone camera =>
      obtain ⟨rfl, rfl⟩ := ends_pure_iff.mp ends
      exact .torch rfl
    | settingsChanged change =>
      obtain ⟨rfl, _⟩ := Core.ends_settingsChanged (ends_reportChange ends)
      exact .change
    | shutdown =>
      obtain ⟨rfl, rfl⟩ := ends_pure_iff.mp ends
      exact .shutdown
  | deliver listener place =>
    cases found : (core.store.unread listener)[place]? with
    | none =>
      obtain ⟨rfl, rfl⟩ := ends_deliver_none found ends
      exact .read found
    | some change =>
      obtain ⟨rfl, _⟩ := Core.ends_settingsChanged (ends_deliver_some found ends)
      exact .deliver found
  | take =>
    obtain ⟨rfl, rfl⟩ := ends_pure_iff.mp ends
    exact .take
  | dispatch gesture =>
    obtain ⟨performed, time, changed, held, rfl⟩ := ends_dispatch ends
    exact .dispatch time changed held
  | settings deed =>
    obtain ⟨rfl, rfl⟩ := ends_pure_iff.mp ends
    exact .settings

/-- **Only the torch gesture and reports on the torch change what is known and shown of it.** -/
theorem lamp_kept {step : Step} (other : step.isTorch = false) (unreported : step.torch? = none)
    (ends : (core.step step).Ends exchanges next) :
    next.lamp.on = core.lamp.on ∧ next.status.torchOn = core.status.torchOn := by
  cases aftermath ends with
  | key handled =>
    obtain ⟨_, _, _, _, rfl⟩ := handled
    exact ⟨rfl, rfl⟩
  | sensors _ sensed =>
    obtain ⟨_, _, _, _, _, _, _, rfl⟩ := sensed
    exact ⟨rfl, rfl⟩
  | torch torch => exact absurd (unreported.symm.trans torch) nofun
  | dispatch time _ held =>
    obtain ⟨_, _, rfl⟩ := held fun torch => by
      rw [torch] at other
      cases other
    exact ⟨rfl, rfl⟩
  | shutdown | change | read | deliver | take | settings => exact ⟨rfl, rfl⟩

/-- **What has nothing to do with the settings leaves the store alone, and the revision that is
shown.** -/
theorem revision_kept {step : Step} (other : step.part ≠ .keypad)
    (ends : (core.step step).Ends exchanges next) :
    next.store = core.store ∧ next.status.settingsRevision = core.status.settingsRevision := by
  cases aftermath ends with
  | key handled =>
    obtain ⟨_, _, _, _, rfl⟩ := handled
    exact ⟨rfl, rfl⟩
  | sensors _ sensed =>
    obtain ⟨_, _, _, _, _, _, _, rfl⟩ := sensed
    exact ⟨rfl, rfl⟩
  | @torch _ camera on _ =>
    unfold Core.torchReported
    split
    · exact ⟨rfl, rfl⟩
    · exact ⟨rfl, rfl⟩
  | dispatch time performed =>
    obtain ⟨_, _, _, rfl⟩ := performed
    exact ⟨rfl, rfl⟩
  | shutdown | take => exact ⟨rfl, rfl⟩
  | change | read | deliver | settings => exact absurd rfl other

end TouchDispatch
