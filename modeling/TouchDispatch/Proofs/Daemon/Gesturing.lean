/-
**Which steps perform a gesture, and what only gestures ask for.**

A gesture is performed by itself, and a slider move also when its key is let go:

* `Step.gesture?`: the gesture that is performed in a step;
* `ends_gesture`: such a step takes a course of performing the gesture;
* `Request.isOfGesture`, `step_apart`: locks, media buttons, vibrations and so on are asked for in
  no other step;
* `step_unarmed`: no other step arms the hold or has to do with the check for repeats;
* `Request.lock?`, `Request.media?`, `Request.vibrate?`, `Request.toDevice?`: requests of one kind.
-/

import TouchDispatch.Proofs.Daemon.Aftermath
import TouchDispatch.Proofs.Daemon.Alike
import TouchDispatch.Proofs.Daemon.Performing

namespace TouchDispatch

open Dialogue

/-! ### Kinds of requests -/

namespace Request

/-- A request for a lock: its tag and its duration. -/
def lock? : Request → Option (String × Nat)
  | .perform (.wakeLock tag millis) => some (tag, millis)
  | _ => none

/-- A request to send an event of a media button. -/
def media? : Request → Option MediaEvent
  | .perform (.media event) => some event
  | _ => none

/-- A request to vibrate. -/
def vibrate? : Request → Option Effect
  | .perform (.vibrate effect) => some effect
  | _ => none

/-- Any request but for the time. -/
def toDevice? : Request → Option Request
  | .now => none
  | request => some request

/-- What only gestures ask for. -/
def isOfGesture : Request → Bool
  | .systemReady | .findCamera | .perform (.torch ..) | .perform (.media _)
  | .perform (.wakeLock ..) | .perform (.vibrate _) | .perform (.zen _)
  | .perform (.ringer _) => true
  | _ => false

theorem lock?_ofGesture (request : Request) (lock : String × Nat)
    (asks : request.lock? = some lock) : request.isOfGesture = true := by
  unfold lock? at asks
  split at asks
  · rfl
  · cases asks

theorem media?_ofGesture (request : Request) (event : MediaEvent)
    (asks : request.media? = some event) : request.isOfGesture = true := by
  unfold media? at asks
  split at asks
  · rfl
  · cases asks

theorem vibrate?_ofGesture (request : Request) (effect : Effect)
    (asks : request.vibrate? = some effect) : request.isOfGesture = true := by
  unfold vibrate? at asks
  split at asks
  · rfl
  · cases asks

/-- What a key may come to as well is not what only gestures ask for. -/
theorem call?_apart {action : Action} {call : Call} (calls : action.call? = some call) :
    (perform call).isOfGesture = false := by
  cases action with
  | torch | media => cases calls
  | camera | wake | launch =>
    obtain rfl := Option.some.inj calls
    rfl

end Request

/-- What is requested of a kind that only gestures ask for, where nothing of the sort is. -/
theorem asked_apart {β : Type} {kind : Request → Option β} {exchanges : List Exchange}
    (ofGesture : ∀ request value, kind request = some value → request.isOfGesture = true)
    (apart : ∀ exchange ∈ exchanges, exchange.request.isOfGesture = false) :
    asked kind exchanges = [] := by
  refine asked_eq_nil fun exchange member => ?_
  cases found : kind exchange.request with
  | none => rfl
  | some value => cases (apart exchange member).symm.trans (ofGesture _ value found)

/-! ### Steps that perform a gesture -/

/-- The gesture that is performed in a step. -/
def Step.gesture? : Step → Option Gesture
  | .dispatch gesture => some gesture
  | .key event => event.position?.map .slide
  | _ => none

variable {core next : Core} {exchanges : List Exchange} {step : Step}

/-- **A step in which a gesture is performed takes a course of that.** -/
theorem ends_gesture {gesture : Gesture} (performs : step.gesture? = some gesture)
    (ends : (core.step step).Ends exchanges next) :
    ∃ before performed time, Performing core gesture before performed ∧
      exchanges = before ++ [⟨.now, time⟩] ∧
        next = performed.withStatus (·.recordGesture gesture time) := by
  cases step with
  | dispatch other =>
    obtain rfl := Option.some.inj performs
    exact ends_performing ends
  | key event =>
    obtain ⟨position, found, rfl⟩ := Option.map_eq_some_iff.mp performs
    obtain rfl := Core.eq_release_of_position? found
    obtain ⟨answer, routed, rfl⟩ := ends_map_iff.mp ends
    rw [Core.route_slider] at routed
    obtain ⟨next, dispatched, rfl⟩ := ends_map_iff.mp routed
    exact ends_performing dispatched
  | report | deliver | take | settings => cases performs

/-! ### All other steps -/

namespace Core

theorem hears_apart (event : KeyEvent) :
    event.hears.Ensures (·.isOfGesture = false) fun _ => True := by
  unfold KeyEvent.hears
  split
  · exact .ite (.musicActive rfl) (.pure trivial)
  · exact .pure trivial

/-- The consequence of a key is no gesture unless it is a slider move. -/
theorem follow_apart (core : Core) {entry : Route × Option Consequence}
    (other : ∀ position, entry.2 ≠ some (.slide position)) :
    (core.follow entry).Ensures (·.isOfGesture = false) fun _ => True := by
  obtain ⟨route, consequence⟩ := entry
  cases consequence with
  | none => exact .pure trivial
  | some consequence =>
    cases consequence with
    | block => exact .pure trivial
    | slide position => exact absurd rfl (other position)
    | submit action =>
      exact .seq (.seq (.now rfl) fun _ => .pure trivial) fun _ => .pure trivial
    | launchCamera | wakeUp => exact .seq (.perform rfl) fun _ => .pure trivial

theorem route_apart (core : Core) {event : KeyEvent} (other : event.position? = none) :
    (core.route event).Ensures (·.isOfGesture = false) fun _ => True := by
  by_cases idle : event.IsIdle
  · rw [route_idle core idle]
    exact .pure trivial
  · obtain ⟨release, known⟩ := Classical.not_imp.mp idle
    obtain ⟨key, found⟩ := Option.ne_none_iff_exists'.mp known
    obtain rfl := eq_release (eq_of_beq release) found
    rw [route_release]
    refine .seq (hears_apart _) fun heard => follow_apart core fun position slide => ?_
    rw [key_of_slide slide, position?_release] at other
    cases other

theorem displayChanged_apart (core : Core) (on : Bool) :
    (core.displayChanged on).Ensures (·.isOfGesture = false) fun _ => True := by
  have sensed : (core.sensorsFor on).Ensures (·.isOfGesture = false) fun _ => True :=
    .ite (.pure trivial) (.seq (.now rfl) fun _ => .pure trivial)
  refine .ite (.pure trivial) (.seq sensed fun sensors => .seq ?_ fun _ => .pure trivial)
  exact .seq (.perform rfl) fun _ => .seq (.perform rfl) fun _ => .pure trivial

theorem glance_apart {now : Int} {exchanges : List Exchange} (glance : Glance now exchanges) :
    ∀ exchange ∈ exchanges, exchange.request.isOfGesture = false := by
  rcases glance with rfl | ⟨sent, rfl⟩
  · exact List.forall_mem_cons.mpr ⟨rfl, List.forall_mem_nil _⟩
  · exact List.forall_mem_cons.mpr ⟨rfl, List.forall_mem_cons.mpr ⟨rfl, List.forall_mem_nil _⟩⟩

theorem proximityReported_apart (core : Core) (sample : ProximitySample) :
    (core.proximityReported sample).Ensures (·.isOfGesture = false) fun _ => True := by
  intro exchanges next ends
  obtain ⟨now, glance, _⟩ := ends_proximityReported ends
  exact ⟨glance_apart glance, trivial⟩

theorem tiltReported_apart (core : Core) (triggered : Bool) :
    (core.tiltReported triggered).Ensures (·.isOfGesture = false) fun _ => True := by
  intro exchanges next ends
  obtain ⟨now, glance, _⟩ := ends_tiltReported ends
  exact ⟨glance_apart glance, trivial⟩

theorem settingsChanged_apart (core : Core) (change : Settings.Change) :
    (core.settingsChanged change).Ensures (·.isOfGesture = false) fun _ => True := by
  intro exchanges next ends
  obtain ⟨rfl, done, rfl⟩ := ends_settingsChanged ends
  refine ⟨?_, trivial⟩
  split
  · exact List.forall_mem_cons.mpr ⟨rfl, List.forall_mem_nil _⟩
  · exact List.forall_mem_nil _

theorem handle_apart (core : Core) (event : Event) :
    (core.handle event).Ensures (·.isOfGesture = false) fun _ => True := by
  cases event with
  | display on => exact .seq (displayChanged_apart core on) fun _ => .pure trivial
  | proximity sample => exact .seq (proximityReported_apart core sample) fun _ => .pure trivial
  | tilt triggered => exact .seq (tiltReported_apart core triggered) fun _ => .pure trivial
  | settingsChanged change => exact .seq (settingsChanged_apart core change) fun _ => .pure trivial
  | torchMode | torchGone | shutdown => exact .pure trivial

/-- **What only gestures ask for is asked for in no other step.** -/
theorem step_apart (core : Core) {step : Step} (idle : step.gesture? = none) :
    (core.step step).Ensures (·.isOfGesture = false) fun _ => True := by
  cases step with
  | key event =>
    exact .seq (route_apart core (Option.map_eq_none_iff.mp idle)) fun _ => .pure trivial
  | report event => exact .seq (handle_apart core event) fun _ => .pure trivial
  | deliver listener place =>
    show (core.deliver listener place).Ensures _ _
    unfold deliver
    split
    · exact .pure trivial
    · exact .seq (handle_apart _ _) fun _ => .pure trivial
  | take | settings => exact .pure trivial
  | dispatch gesture => cases idle

end Core

/-- **No other step arms the hold**, nor has it to do with the check for repeats. -/
theorem step_unarmed (idle : step.gesture? = none) (ends : (core.step step).Ends exchanges next) :
    next.hold = core.hold ∧ next.lamp.armedAt = core.lamp.armedAt ∧
      next.lamp.camera = core.lamp.camera := by
  cases aftermath ends with
  | key handled =>
    obtain ⟨_, _, _, _, rfl⟩ := handled
    exact ⟨rfl, rfl, rfl⟩
  | sensors _ sensed =>
    obtain ⟨_, _, _, _, _, _, _, rfl⟩ := sensed
    exact ⟨rfl, rfl, rfl⟩
  | torch =>
    unfold Core.torchReported
    split
    · exact ⟨rfl, rfl, rfl⟩
    · exact ⟨rfl, rfl, rfl⟩
  | dispatch => cases idle
  | shutdown | change | read | deliver | take | settings => exact ⟨rfl, rfl, rfl⟩

end TouchDispatch
