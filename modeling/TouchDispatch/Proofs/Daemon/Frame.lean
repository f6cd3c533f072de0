/-
**What each step leaves alone.**

The state of the daemon is looked at in three views, and each step belongs to the part of the device
that the view is about, if to any:

* `Core.copies`: the store and the copies of settings that are kept beside it;
* `Core.senses`: what is known of the display and the sensors, and shown of them;
* `Core.arming`: when the torch was switched last, and for how long it then rests;
* `Frame`: two states that agree in all views but that of one part;
* `act_performed`, `route_handled`, `handle_sensed`: what performing an action, handling a key and a
  report of the sensors change;
* `Step.part`: the part that a step is about;
* `step_frame`: **a step asks nothing of the other parts and leaves their views alone.**
-/

import TouchDispatch.Proofs.Daemon.Report
import TouchDispatch.Proofs.Daemon.Session

namespace TouchDispatch

open Dialogue
open Settings (Change)

/-- The store and the copies of settings that are kept beside it. -/
structure Copies where
  store : Settings.Store
  keysDisabled : Bool
  shownKeysDisabled : Bool
  proximityCheck : Bool
  features : DozeFeatures
  sensorCheck : Bool
  switches : Option Switches

/-- What is known of the display and the sensors, and shown of them. -/
structure Senses where
  presence : Presence
  window : Option ProximityWindow
  tiltAt : Option Int
  near : Bool
  screenOn : Bool
  shownScreen : Bool
  shownSensors : SensorStatus

/-- When the torch was switched last, and for how long it then rests. -/
structure Arming where
  camera : Option String
  armedAt : Int
  millis : Nat

namespace Core

/-- The store and the copies of settings that are kept beside it. -/
def copies (core : Core) : Copies :=
  ⟨core.store, core.keysDisabled, core.status.keysDisabled, core.proximityCheck,
    core.sensors.features, core.sensors.proximityCheck, core.switches⟩

/-- What is known of the display and the sensors, and shown of them. -/
def senses (core : Core) : Senses :=
  ⟨core.sensors.presence, core.sensors.window, core.sensors.tiltAt, core.sensors.near,
    core.screenOn, core.status.screenOn, core.status.sensors⟩

/-- When the torch was switched last, and for how long it then rests. -/
def arming (core : Core) : Arming :=
  ⟨core.lamp.camera, core.lamp.armedAt, core.hold.millis⟩

end Core

/-- Two states that agree in all views but that of one part. -/
structure Frame (part : Part) (before after : Core) : Prop where
  copies : part ≠ .keypad → after.copies = before.copies
  senses : part ≠ .sensors → after.senses = before.senses
  arming : part ≠ .torch → after.arming = before.arming

theorem Frame.refl (part : Part) (core : Core) : Frame part core core :=
  ⟨fun _ => rfl, fun _ => rfl, fun _ => rfl⟩

theorem Frame.trans {part : Part} {first second third : Core} (left : Frame part first second)
    (right : Frame part second third) : Frame part first third :=
  ⟨fun other => (right.copies other).trans (left.copies other),
    fun other => (right.senses other).trans (left.senses other),
    fun other => (right.arming other).trans (left.arming other)⟩

/-- A request to the part, or to none of the three. -/
def Own (part : Part) (request : Request) : Prop :=
  request.part = part ∨ request.part = .other

theorem own_other {part : Part} {request : Request} (other : request.part = .other) :
    Own part request :=
  Or.inr other

/-- A request to the part is to no other of the three. -/
theorem Own.ne {part second : Part} {request : Request} (own : Own part request)
    (apart : part ≠ second) (named : second ≠ .other) : request.part ≠ second := by
  rcases own with here | here
  · rw [here]
    exact apart
  · rw [here]
    exact named.symm

namespace Core

variable {part : Part}

/-! ### Performing gestures -/

theorem feedback_frame (core : Core) : core.feedback.Ensures (Own part) fun _ => True :=
  .ite (.bind (.perform (own_other rfl)) fun _ _ => .pure trivial) (.pure trivial)

theorem acquire_frame (hold : Hold) :
    hold.acquire.Ensures (Own part) fun armed => armed.millis = hold.millis :=
  .bind (.now (own_other rfl)) fun _ _ =>
    .bind (.perform (own_other rfl)) fun _ _ => .pure rfl

/-- The same with the hold armed anew, for as long as before. -/
def Held (core next : Core) : Prop :=
  ∃ hold : Hold, hold.millis = core.hold.millis ∧ next = { core with hold }

/-- The same but for the hold, and for what is known and shown of the torch. -/
def Performed (core next : Core) : Prop :=
  ∃ hold lamp torchOn, next = { core with hold, lamp, status := { core.status with torchOn } }

theorem Held.refl (core : Core) : Held core core :=
  ⟨core.hold, rfl, rfl⟩

theorem Held.performed {core next : Core} (held : Held core next) : Performed core next := by
  obtain ⟨hold, _, rfl⟩ := held
  exact ⟨hold, core.lamp, core.status.torchOn, rfl⟩

theorem Held.frame {core next : Core} (held : Held core next) : Frame part core next := by
  obtain ⟨hold, armed, rfl⟩ := held
  exact ⟨fun _ => rfl, fun _ => rfl,
    fun _ => congrArg (Arming.mk core.lamp.camera core.lamp.armedAt) armed⟩

theorem Performed.frame {core next : Core} (performed : Performed core next) :
    Frame .torch core next := by
  obtain ⟨_, _, _, rfl⟩ := performed
  exact ⟨fun _ => rfl, fun _ => rfl, fun same => absurd rfl same⟩

theorem sendMedia_held (core : Core) (button : MediaButton) :
    (core.sendMedia button).Ensures (Own part) (Held core) := by
  refine .bind (acquire_frame core.hold) fun hold armed => ?_
  have kept : Held core { core with hold } := ⟨hold, armed, rfl⟩
  refine .bind (.systemReady (own_other rfl)) fun ready _ => .ite ?_ (.pure kept)
  refine .bind (.now (own_other rfl)) fun downAt _ => .bind (.perform (own_other rfl)) fun _ _ => ?_
  refine .bind (.now (own_other rfl)) fun upAt _ => .bind (.perform (own_other rfl)) fun _ _ => ?_
  exact .pure kept

theorem slide_frame (core : Core) (position : Position) :
    (core.slide position).Ensures (Own part) fun _ => True := by
  unfold slide
  dsimp only
  split
  · exact .pure trivial
  · refine .bind (.perform (own_other rfl)) fun _ _ => ?_
    have felt : ∀ effect,
        (do let _ ← Dialogue.perform (.vibrate effect); return () : Dialogue Unit).Ensures
          (Own part) fun _ => True :=
      fun effect => .bind (.perform (own_other rfl)) fun _ _ => .pure trivial
    split
    · exact .bind (.perform (own_other rfl)) fun _ _ => felt _
    · exact felt _

theorem rearCamera_performed (core : Core) :
    core.rearCamera.Ensures (Own .torch) fun answer =>
      ∃ lamp, answer.2 = { core with lamp } := by
  unfold rearCamera
  split
  · exact .pure ⟨core.lamp, rfl⟩
  · exact .bind (.findCamera (Or.inl rfl)) fun search _ => .pure ⟨_, rfl⟩

theorem toggleTorch_performed (core : Core) :
    core.toggleTorch.Ensures (Own .torch) (Performed core) := by
  refine .bind (rearCamera_performed core) fun (camera, found) ⟨lamp, same⟩ => ?_
  obtain rfl : found = { core with lamp } := same
  have kept : Performed core { core with lamp } := ⟨core.hold, lamp, core.status.torchOn, rfl⟩
  cases camera with
  | none => exact .pure kept
  | some camera =>
    refine .bind (.now (own_other rfl)) fun now _ => .ite (.pure kept) ?_
    refine .bind (acquire_frame core.hold) fun hold _ => .bind (feedback_frame _) fun _ _ => ?_
    refine .bind (.perform (Or.inl rfl)) fun switched _ => .pure ?_
    split
    · exact ⟨hold, _, _, rfl⟩
    · exact ⟨hold, _, core.status.torchOn, rfl⟩

theorem act_held (core : Core) {action : Action} (other : action ≠ .torch) :
    (core.act action).Ensures (Own part) (Held core) := by
  have felt : ∀ call, Own part (.perform call) →
      (do core.feedback; let _ ← Dialogue.perform call; return core : Dialogue Core).Ensures
        (Own part) (Held core) := by
    intro call own
    refine .bind (feedback_frame core) fun _ _ => .bind (.perform own) fun _ _ => ?_
    exact .pure (.refl core)
  cases action with
  | torch => exact absurd rfl other
  | media button => exact .bind (feedback_frame core) fun _ _ => sendMedia_held core button
  | camera => exact felt .launchCamera (own_other rfl)
  | wake => exact felt .wakeUp (own_other rfl)
  | launch component => exact felt (.launch component) (own_other rfl)

/-- **Performing an action changes the hold, and what is known and shown of the torch.** -/
theorem act_performed (core : Core) (action : Action) :
    (core.act action).Ensures (Own .torch) (Performed core) := by
  by_cases torch : action = .torch
  · subst torch
    exact toggleTorch_performed core
  · exact (act_held core torch).imp fun _ => Held.performed

theorem act_frame (core : Core) {action : Action} (own : action = .torch → part = .torch) :
    (core.act action).Ensures (Own part) (Frame part core) := by
  by_cases torch : action = .torch
  · obtain rfl := own torch
    exact (act_performed core action).imp fun _ => Performed.frame
  · exact (act_held core torch).imp fun _ => Held.frame

/-- The same but for the slot, and for what is shown and counted of gestures and keys. -/
def Handled (core next : Core) : Prop :=
  ∃ slot lastGesture lastGestureAt counters, next =
    { core with slot, status := { core.status with lastGesture, lastGestureAt, counters } }

theorem Handled.refl (core : Core) : Handled core core :=
  ⟨_, _, _, _, rfl⟩

theorem Handled.frame {core next : Core} (handled : Handled core next) : Frame part core next := by
  obtain ⟨_, _, _, _, rfl⟩ := handled
  exact ⟨fun _ => rfl, fun _ => rfl, fun _ => rfl⟩

/-- A slider move is performed and recorded. -/
theorem dispatch_slide_handled (core : Core) (position : Position) :
    (core.dispatch (.slide position)).Ensures (Own part) (Handled core) := by
  refine .bind (slide_frame core position) fun _ _ => ?_
  have kept : (Pure.pure core : Dialogue Core).Ensures (Own part) fun next => next = core :=
    .pure rfl
  refine .bind kept fun next same => .bind (.now (own_other rfl)) fun now _ => .pure ?_
  subst same
  exact ⟨_, _, _, _, rfl⟩

/-- **Only the torch gesture has to do with the torch.** -/
theorem dispatch_frame (core : Core) {gesture : Gesture}
    (own : gesture = .run .torch → part = .torch) :
    (core.dispatch gesture).Ensures (Own part) (Frame part core) := by
  cases gesture with
  | run action =>
    refine .bind (act_frame core fun same => own (congrArg Gesture.run same)) fun next kept => ?_
    refine .bind (.now (own_other rfl)) fun now _ => .pure (kept.trans ?_)
    exact ⟨fun _ => rfl, fun _ => rfl, fun _ => rfl⟩
  | slide position => exact (dispatch_slide_handled core position).imp fun _ => Handled.frame

/-! ### Keys -/

theorem judge_frame (core : Core) (key : Key) :
    (core.judge key).Ensures (Own part) fun _ => True := by
  have asks : ∀ channel,
      (do return if ← Dialogue.musicActive then core.bound channel else .notHandled :
        Dialogue Verdict).Ensures (Own part) fun _ => True :=
    fun channel => .bind (.musicActive (own_other rfl)) fun _ _ => .pure trivial
  unfold judge
  split
  · exact .pure trivial
  · exact .pure trivial
  · exact .pure trivial
  · exact .pure trivial
  · exact .pure trivial
  · exact .pure trivial
  · exact asks .leftV
  · exact asks .rightV

theorem classify_frame (core : Core) (event : KeyEvent) :
    (core.classify event).Ensures (Own part) fun _ => True := by
  refine .ite ?_ (.pure trivial)
  split
  · exact judge_frame core _
  · exact .pure trivial

theorem submit_handled (core : Core) (gesture : Gesture) :
    (core.submit gesture).Ensures (Own part) (Handled core) := by
  refine .bind (.now (own_other rfl)) fun now _ => .pure ?_
  split
  · exact ⟨_, _, _, _, rfl⟩
  · exact ⟨_, _, _, _, rfl⟩

theorem handleKey_handled (core : Core) (event : KeyEvent) :
    (core.handleKey event).Ensures (Own part) fun answer => Handled core answer.2 := by
  refine .ite (.pure (.refl core)) (.bind (classify_frame core event) fun verdict _ => ?_)
  split
  · exact .pure (.refl core)
  · exact .pure ⟨_, _, _, _, rfl⟩
  · exact .bind (dispatch_slide_handled core _) fun next handled => .pure handled
  · exact .bind (submit_handled core _) fun next handled => .pure handled

/-- **Handling a key changes the slot, and what is shown and counted of gestures and keys.** -/
theorem route_handled (core : Core) (event : KeyEvent) :
    (core.route event).Ensures (Own part) fun answer => Handled core answer.2 := by
  refine .bind (handleKey_handled core event) fun (_, next) handled => .ite (.pure handled) ?_
  refine .ite (.pure handled) (.ite ?_ (.ite ?_ (.pure handled)))
  · exact .bind (.perform (own_other rfl)) fun _ _ => .pure handled
  · exact .bind (.perform (own_other rfl)) fun _ _ => .pure handled

/-! ### Reports -/

/-- The same but for the display and the windows of the sensors, what is shown of them, and the
count of pulses. -/
def Sensed (core next : Core) : Prop :=
  ∃ screenOn window tiltAt near shownScreen shownSensors dozePulses, next =
    { core with
      screenOn
      sensors := { core.sensors with window, tiltAt, near }
      status := { core.status with
        screenOn := shownScreen
        sensors := shownSensors
        counters := { core.status.counters with dozePulses } } }

theorem Sensed.refl (core : Core) : Sensed core core :=
  ⟨_, _, _, _, _, _, _, rfl⟩

theorem Sensed.frame {core next : Core} (sensed : Sensed core next) :
    Frame .sensors core next := by
  obtain ⟨_, _, _, _, _, _, _, rfl⟩ := sensed
  exact ⟨fun _ => rfl, fun same => absurd rfl same, fun _ => rfl⟩

/-- Waking the screen is counted at most. -/
theorem Sensed.pulsed {core next final : Core} (sensed : Sensed core next)
    (result : final = next ∨ final = next.withStatus Status.countPulse) : Sensed core final := by
  obtain ⟨_, _, _, _, _, _, _, rfl⟩ := sensed
  rcases result with rfl | rfl
  · exact ⟨_, _, _, _, _, _, _, rfl⟩
  · exact ⟨_, _, _, _, _, _, _, rfl⟩

theorem glance_own {now : Int} {exchanges : List Exchange} (glance : Glance now exchanges) :
    ∀ exchange ∈ exchanges, Own part exchange.request := by
  rcases glance with rfl | ⟨sent, rfl⟩
  · exact List.forall_mem_cons.mpr ⟨own_other rfl, List.forall_mem_nil _⟩
  · exact List.forall_mem_cons.mpr ⟨own_other rfl,
      List.forall_mem_cons.mpr ⟨own_other rfl, List.forall_mem_nil _⟩⟩

theorem displayChanged_sensed (core : Core) (on : Bool) :
    (core.displayChanged on).Ensures (Own .sensors) (Sensed core) := by
  by_cases same : on = core.screenOn
  · rw [same, displayChanged_same]
    exact .pure (.refl core)
  · intro exchanges next ends
    cases on with
    | false =>
      have screen : core.screenOn = true := Bool.of_not_eq_false (Ne.symm same)
      obtain ⟨now, first, second, rfl, rfl⟩ := ends_displayOff screen ends
      refine ⟨?_, _, _, _, _, _, _, _, rfl⟩
      simp [Own, Request.part]
    | true =>
      have screen : core.screenOn = false := Bool.of_not_eq_true (Ne.symm same)
      obtain ⟨first, second, rfl, rfl⟩ := ends_displayOn screen ends
      refine ⟨?_, _, _, _, _, _, _, _, rfl⟩
      simp [Own, Request.part]

theorem sampled_sensed (core : Core) (sample : ProximitySample) (now : Int) :
    Sensed core (core.sampled sample now) := by
  cases opened : core.sensors.window with
  | none =>
    rw [sampled_closed opened]
    exact .refl core
  | some window =>
    rw [sampled_open opened]
    exact ⟨_, _, _, _, _, _, _, rfl⟩

theorem proximityReported_sensed (core : Core) (sample : ProximitySample) :
    (core.proximityReported sample).Ensures (Own .sensors) (Sensed core) := by
  intro exchanges next ends
  obtain ⟨now, glance, result⟩ := ends_proximityReported ends
  exact ⟨glance_own glance, (sampled_sensed core sample now).pulsed result⟩

theorem tiltReported_sensed (core : Core) (triggered : Bool) :
    (core.tiltReported triggered).Ensures (Own .sensors) (Sensed core) := by
  intro exchanges next ends
  obtain ⟨now, glance, result⟩ := ends_tiltReported ends
  have tilted : Sensed core { core with sensors := (core.sensors.tilt triggered now).2 } := by
    unfold DozeSensors.tilt
    split
    · exact .refl core
    · split
      · exact .refl core
      · exact ⟨_, _, _, _, _, _, _, rfl⟩
  exact ⟨glance_own glance, tilted.pulsed result⟩

theorem refreshed_frame (core : Core) (change : Change) :
    Frame .keypad core (core.refreshed change) := by
  have senses : (core.refreshed change).senses = core.senses := by
    unfold refreshed senses
    by_cases sensed : (change.touches Settings.dozeName ||
        change.touches Settings.proximityCheckName) = true
    · simp only [if_pos sensed, DozeSensors.configure]
    · simp only [if_neg sensed]
  exact ⟨fun same => absurd rfl same, fun _ => senses, fun _ => rfl⟩

theorem settingsChanged_frame (core : Core) (change : Change) :
    (core.settingsChanged change).Ensures (Own .keypad) (Frame .keypad core) := by
  intro exchanges next ends
  obtain ⟨rfl, done, rfl⟩ := ends_settingsChanged ends
  refine ⟨?_, refreshed_frame core change⟩
  split
  · exact List.forall_mem_cons.mpr ⟨Or.inl rfl, List.forall_mem_nil _⟩
  · exact List.forall_mem_nil _

theorem torchReported_frame (core : Core) (camera : String) (on : Bool) :
    Frame part core (core.torchReported camera on) := by
  unfold torchReported
  split
  · exact ⟨fun _ => rfl, fun _ => rfl, fun _ => rfl⟩
  · exact .refl part core

end Core

/-- The part that a report is about. -/
def Event.part : Event → Part
  | .display _ | .proximity _ | .tilt _ => .sensors
  | .settingsChanged _ => .keypad
  | .torchMode .. | .torchGone _ | .shutdown => .other

/-- The part that a step is about; the settings and their changes go with the keypad, which follows
them. -/
def Step.part : Step → Part
  | .report event => event.part
  | .deliver .. | .settings _ => .keypad
  | .dispatch (.run .torch) => .torch
  | .key _ | .take | .dispatch _ => .other

/-- Only reports are about the sensors. -/
theorem Step.part_eq_sensors {step : Step} (sensors : step.part = .sensors) :
    ∃ event, step = .report event ∧ event.part = .sensors := by
  cases step with
  | report event => exact ⟨event, rfl, sensors⟩
  | dispatch gesture =>
    rcases gesture with action | position
    · cases action <;> cases sensors
    · cases sensors
  | key | deliver | take | settings => cases sensors

/-- Only the torch gesture is about the torch. -/
theorem Step.part_eq_torch {step : Step} (torch : step.part = .torch) :
    step = .dispatch (.run .torch) := by
  cases step with
  | report event => cases event <;> cases torch
  | dispatch gesture =>
    rcases gesture with action | position
    · cases action <;> first | rfl | cases torch
    · cases torch
  | key | deliver | take | settings => cases torch

namespace Core

/-- **What the display and the sensors report changes what is known and shown of them**, and the
count of pulses. -/
theorem handle_sensed (core : Core) {event : Event} (sensors : event.part = .sensors) :
    (core.handle event).Ensures (Own .sensors) fun answer => Sensed core answer.2 := by
  cases event with
  | display on => exact .bind (displayChanged_sensed core on) fun next sensed => .pure sensed
  | proximity sample =>
    exact .bind (proximityReported_sensed core sample) fun next sensed => .pure sensed
  | tilt triggered =>
    exact .bind (tiltReported_sensed core triggered) fun next sensed => .pure sensed
  | torchMode | torchGone | settingsChanged | shutdown => cases sensors

/-- What an event does, and whether there is to be a next one. -/
theorem handle_frame (core : Core) (event : Event) :
    (core.handle event).Ensures (Own event.part) fun answer => Frame event.part core answer.2 := by
  cases event with
  | display | proximity | tilt =>
    exact (handle_sensed core rfl).imp fun answer => Sensed.frame
  | torchMode camera on => exact .pure (torchReported_frame core camera on)
  | torchGone camera => exact .pure (torchReported_frame core camera false)
  | settingsChanged change =>
    exact .bind (settingsChanged_frame core change) fun next kept => .pure kept
  | shutdown => exact .pure (.refl _ core)

theorem deliver_frame (core : Core) (listener place : Nat) :
    (core.deliver listener place).Ensures (Own .keypad) (Frame .keypad core) := by
  unfold deliver
  split
  · exact .pure (.refl _ core)
  · have waiting : Frame .keypad core { core with store := core.store.handOut listener place } :=
      ⟨fun same => absurd rfl same, fun _ => rfl, fun _ => rfl⟩
    exact .bind (handle_frame _ _) fun answer kept => .pure (waiting.trans kept)

/-- **A step asks nothing of the other parts and leaves their views alone.** -/
theorem step_frame (core : Core) (step : Step) :
    (core.step step).Ensures (Own step.part) (Frame step.part core) := by
  cases step with
  | key event => exact .bind (route_handled core event) fun answer handled => .pure handled.frame
  | report event => exact .bind (handle_frame core event) fun answer kept => .pure kept
  | deliver listener place => exact deliver_frame core listener place
  | take => exact .pure ⟨fun _ => rfl, fun _ => rfl, fun _ => rfl⟩
  | dispatch gesture =>
    refine dispatch_frame core fun same => ?_
    rw [same]
    rfl
  | settings deed => exact .pure ⟨fun same => absurd rfl same, fun _ => rfl, fun _ => rfl⟩

end Core

end TouchDispatch
