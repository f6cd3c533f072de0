/-
**A drawn gesture does what its channel is bound to, and the circle starts the camera.**

A gesture is let go, and the performing thread takes what waits then:

* `Core.draw`: both, one after the other;
* `services`: what the launcher, the power service, the camera and the audio service are asked for;
* `submit_drain`: a gesture that goes through an empty slot is performed as it is;
* `draw_circle`, `draw_drawn`: what a drawn gesture comes to;
* `drawn_does_what_is_bound`: **the services are asked for what performing the binding asks for, and
  for nothing if it is disabled; only the circle starts the camera whatever it is bound to.**
-/

import TouchDispatch.Proofs.Daemon.Routing
import TouchDispatch.Proofs.Settings.Shown

namespace TouchDispatch

open Dialogue

/-! ### What is asked of the services -/

/-- A request to the launcher, the power service, the camera or the audio service. Whether music is
playing is none: by that a gesture is heard at all. -/
def Request.service? : Request → Option Request
  | .findCamera => some .findCamera
  | .systemReady => some .systemReady
  | .perform (.torch camera enabled) => some (.perform (.torch camera enabled))
  | .perform (.ringer mode) => some (.perform (.ringer mode))
  | .perform (.media event) => some (.perform (.media event))
  | .perform (.wakeLock tag millis) => some (.perform (.wakeLock tag millis))
  | .perform .wakeUp => some (.perform .wakeUp)
  | .perform (.launch component) => some (.perform (.launch component))
  | .perform .launchCamera => some (.perform .launchCamera)
  | _ => none

/-- What the launcher, the power service, the camera and the audio service are asked for, in
order. -/
def services (exchanges : List Exchange) : List Request :=
  asked Request.service? exchanges

theorem services_append (before after : List Exchange) :
    services (before ++ after) = services before ++ services after :=
  asked_append before after

/-! ### What a drawn gesture comes to -/

/-- The action that a drawn gesture performs. The circle starts the camera whatever it is bound
to. -/
def Channel.action? (channel : Channel) : Binding → Option Action
  | .disabled => none
  | .run action => some (if channel = .circle then .camera else action)

namespace Core

/-- A drawn gesture is let go, and the performing thread takes what waits then. -/
def draw (core : Core) (channel : Channel) : Dialogue Core := do
  let (_, core) ← core.route (.release (Key.drawn channel).scanCode)
  let (_, core) ← core.drain
  return core

variable {core : Core} {channel : Channel}

theorem drain_empty (empty : core.slot.pending = none) : core.drain = return (0, core) := by
  unfold drain Slot.tryTake
  rw [empty]

/-- **A gesture that goes through an empty slot is performed as it is.** -/
theorem submit_drain (empty : core.slot.pending = none) (gesture : Gesture) :
    (core.submit gesture >>= drain) = do
      let _ ← Dialogue.now
      let next ← core.dispatch gesture
      return (1, next) := by
  have taken : ∀ order : Order,
      ({ core with slot := { core.slot with pending := some order } }.drain :
        Dialogue (Nat × Core)) = core.dispatch order.gesture >>= fun next => return (1, next) := by
    intro order
    have same : { core with slot := { core.slot with pending := none } } = core := by
      rw [← empty]
    show ({ core with slot := { core.slot with pending := none } }.dispatch order.gesture >>=
      fun next => return (1, next)) = _
    rw [same]
  unfold submit Slot.submit
  rw [empty, bind_assoc]
  exact bind_congr fun now => taken ⟨gesture, now⟩

/-- The circle starts the camera, unless its binding is disabled. -/
theorem draw_circle (free : core.blocks (.drawn .circle) = false)
    (empty : core.slot.pending = none) :
    core.draw .circle =
      match Settings.binding core.table .circle with
      | .disabled => return core
      | .run _ => do
        let _ ← Dialogue.perform .launchCamera
        return core := by
  unfold draw
  rw [route_circle free]
  cases Settings.binding core.table .circle with
  | disabled =>
    show core.drain >>= _ = _
    rw [drain_empty empty]
    rfl
  | run action =>
    show (Dialogue.perform .launchCamera >>= fun _ => core.drain >>= _) = _
    rw [drain_empty empty]
    rfl

/-- **Any other drawn gesture that is heard performs its binding.** -/
theorem draw_drawn (other : channel ≠ .circle) (free : core.blocks (.drawn channel) = false)
    (empty : core.slot.pending = none) :
    core.draw channel = channel.hears >>= fun heard =>
      match heard, Settings.binding core.table channel with
      | true, .run action => do
        let _ ← Dialogue.now
        core.dispatch (.run action)
      | _, _ => return core := by
  have passed : (core.follow (.passed, none) >>= fun answer => do
      let (_, core) ← answer.2.drain
      return core : Dialogue Core) = return core := by
    show (core.drain >>= _) = _
    rw [drain_empty empty]
    rfl
  unfold draw
  rw [route_drawn other free, bind_assoc]
  refine bind_congr fun heard => ?_
  cases heard with
  | false => exact passed
  | true =>
    rw [if_pos rfl]
    unfold boundEntry
    cases Settings.binding core.table channel with
    | disabled => exact passed
    | run action =>
      have performed : (core.submit (.run action) >>= drain >>= fun answer => return answer.2) =
          Dialogue.now >>= fun _ => core.dispatch (.run action) := by
        rw [submit_drain empty, bind_assoc]
        refine bind_congr fun now => ?_
        rw [bind_assoc]
        exact bind_pure _
      rw [bind_assoc] at performed
      show (core.submit (.run action) >>= fun next => return (Route.consumed, next)) >>= _ = _
      rw [bind_assoc]
      exact performed

/-! ### The services -/

section Services

variable {σ : Type} (host : Host σ) (device : σ)

/-- Whether a gesture is heard is no business of the services. -/
theorem services_hears (channel : Channel) :
    services (channel.hears.transcript host device) = [] := by
  cases channel <;> rfl

theorem hears_run {channel : Channel} (playing : (host.answer .musicActive device).1 = true) :
    (channel.hears.run host device).1 = true := by
  cases channel with
  | circle | v | twoFingerSwipe => rfl
  | leftV | rightV => exact playing

theorem services_feedback (core : Core) :
    services (core.feedback.transcript host device) = [] := by
  unfold feedback
  split
  · rfl
  · rfl

/-- Performing the camera gesture starts the camera. -/
theorem services_camera (core : Core) :
    services ((core.dispatch (.run .camera)).transcript host device) =
      [.perform .launchCamera] := by
  unfold dispatch act
  simp only [transcript_bind, services_append, services_feedback]
  rfl

end Services

end Core

/-- **A drawn gesture does what its channel is bound to.** Music is playing, nothing blocks the key
and nothing waits in the slot. Then the services are asked for what they are asked for when the
binding that the status shows is performed on the device as it is by then, and for nothing if that
binding is disabled; only the circle starts the camera whatever it is bound to. -/
theorem drawn_does_what_is_bound {σ : Type} (host : Host σ) (device : σ) (core : Core)
    (channel : Channel) (free : core.blocks (.drawn channel) = false)
    (empty : core.slot.pending = none) (playing : (host.answer .musicActive device).1 = true) :
    let present := ((do let _ ← channel.hears; Dialogue.now : Dialogue Int).run host device).2
    ∃ binding, Api.shownBinding? (Api.stateJson core.status core.table) channel = some binding ∧
      services ((core.draw channel).transcript host device) =
        match channel.action? binding with
        | none => []
        | some action => services ((core.dispatch (.run action)).transcript host present) := by
  intro present
  refine ⟨_, Api.shownBinding?_stateJson core.status core.table channel, ?_⟩
  by_cases circle : channel = .circle
  · subst circle
    rw [Core.draw_circle free empty]
    cases Settings.binding core.table .circle with
    | disabled => rfl
    | run action =>
      show _ = services ((core.dispatch (.run .camera)).transcript host present)
      rw [Core.services_camera]
      rfl
  · rw [Core.draw_drawn circle free empty, transcript_bind, services_append, Core.services_hears,
      List.nil_append, Core.hears_run host device playing]
    cases Settings.binding core.table channel with
    | disabled => rfl
    | run action =>
      have bound : channel.action? (.run action) = some action :=
        congrArg some (if_neg circle)
      rw [bound]
      show services (transcript host (Dialogue.now >>= fun _ => core.dispatch (.run action)) _) = _
      have there : present = (Dialogue.now.run host (channel.hears.run host device).2).2 :=
        congrArg Prod.snd (run_bind host channel.hears (fun _ => Dialogue.now) device)
      rw [transcript_bind, services_append, there]
      rfl

/-- On a bench, a left V that is bound to an app starts it. -/
theorem left_v_starts_app_on_bench :
    let table : Settings.Table := [("device_gesture_mapping_left_v", .text " org.app/.Main")]
    let core := Session.begun {} { table } {} none
    core.blocks (.drawn .leftV) = false ∧ core.slot.pending = none ∧
      services ((core.draw .leftV).transcript Bench.host {}) =
        [.perform (.launch "org.app/.Main")] := by
  intro table core
  have free : core.blocks (.drawn .leftV) = false := rfl
  obtain ⟨binding, shown, asked⟩ := drawn_does_what_is_bound Bench.host {} core .leftV free rfl rfl
  have bound : Settings.binding core.table .leftV = .run (.launch "org.app/.Main") := by decide
  rw [Api.shownBinding?_stateJson, bound] at shown
  obtain rfl := Option.some.inj shown
  exact ⟨free, rfl, asked⟩

/-- On a bench, a circle that is bound to the torch starts the camera, though nothing blocks it,
nothing waits in the slot, music is playing and the system has come up: performing its binding would
switch the torch. -/
theorem circle_starts_camera_on_bench :
    let table : Settings.Table := [("device_gesture_mapping_circle", .text "torch")]
    let core := Session.begun {} { table } {} none
    core.blocks (.drawn .circle) = false ∧ core.slot.pending = none ∧
      (Bench.host.answer .musicActive {}).1 = true ∧
      (Bench.host.answer .systemReady {}).1 = true ∧
      Api.shownBinding? (Api.stateJson core.status core.table) .circle = some (.run .torch) ∧
      services ((core.draw .circle).transcript Bench.host {}) = [.perform .launchCamera] ∧
      services ((core.dispatch (.run .torch)).transcript Bench.host {}) =
        [.findCamera, .perform (.wakeLock "GestureWakeLock" 2000), .perform (.torch "0" true)] := by
  decide +kernel

end TouchDispatch
