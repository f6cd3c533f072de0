/-
**What is only shown decides nothing.**

Some of the state is written by steps of the daemon and looked at by none of them. So two states
that differ in it only take every step alike:

* `Matter`, `Request.matter`, `Step.matter`: what a request and a step are about, if about the mode
  of the slider or about waking the screen;
* `Unseen`, `Core.withUnseen`: the part of the state that is only shown, and a state with another
  one;
* `Core.Alike`: two states that differ in that part only, and there as a relation allows;
* `Stable`, `Woken`: a relation that performing gestures keeps, and one that counting pulses keeps;
* `dispatch_alike`, `route_alike`, `handle_alike`: performing a gesture, a key and a report;
* `step_alike`: **from states that are alike a step makes the same requests, and leaves states that
  are alike**;
* `step_about`: a step asks for nothing that it is not about, and counts a pulse only if it is about
  waking the screen.
-/

import TouchDispatch.Proofs.Daemon.Routing
import TouchDispatch.Proofs.Device.Beside

namespace TouchDispatch

open Dialogue
open Settings (Change)

/-! ### What steps are about -/

/-- What a request may be about. -/
inductive Matter where
  /-- The mode that the slider switches to. -/
  | mode
  /-- Waking the screen. -/
  | waking
  /-- Anything else. -/
  | other
deriving DecidableEq, Repr

/-- What a request is about. -/
def Request.matter : Request → Matter
  | .perform (.zen _) | .perform (.ringer _) => .mode
  | .perform .pulse => .waking
  | _ => .other

/-- A request about a matter, or about neither of the two. -/
def About (matter : Matter) (request : Request) : Prop :=
  request.matter = matter ∨ request.matter = .other

/-- The slider position that is reported by letting go of a key. -/
def KeyEvent.position? (event : KeyEvent) : Option Position :=
  if event.isRelease then event.key?.bind Key.position? else none

/-- What a gesture is about. -/
def Gesture.matter : Gesture → Matter
  | .slide _ => .mode
  | .run _ => .other

/-- What a step is about. -/
def Step.matter : Step → Matter
  | .key event => if event.position?.isSome then .mode else .other
  | .report (.proximity _) | .report (.tilt _) => .waking
  | .dispatch gesture => gesture.matter
  | _ => .other

/-! ### The part that is only shown -/

/-- What no step looks at: until when the hold was armed, which gesture was performed last and when,
and how often gestures were performed and the screen was woken. -/
structure Unseen where
  endsAt : Int
  lastGesture : Option String
  lastGestureAt : Option Int
  dispatched : Nat
  dozePulses : Nat

namespace Unseen

/-- A gesture was performed. -/
def recorded (unseen : Unseen) (gesture : Gesture) (now : Int) : Unseen :=
  { unseen with
    lastGesture := some gesture.label
    lastGestureAt := some now
    dispatched := unseen.dispatched + 1 }

/-- A pulse was sent, or failed. -/
def pulsed (unseen : Unseen) (sent : Bool) : Unseen :=
  { unseen with dozePulses := unseen.dozePulses + if sent then 1 else 0 }

end Unseen

/-- A relation that performing gestures keeps. -/
structure Stable (same : Unseen → Unseen → Prop) : Prop where
  armed : ∀ {one two : Unseen} (endsAt : Int), same one two →
    same { one with endsAt } { two with endsAt }
  recorded : ∀ {one two : Unseen} (gesture : Gesture) (now : Int), same one two →
    same (one.recorded gesture now) (two.recorded gesture now)

/-- A relation that counting pulses keeps, though on one side only. -/
def Woken (same : Unseen → Unseen → Prop) : Prop :=
  ∀ {one two : Unseen} (first second : Bool), same one two →
    same (one.pulsed first) (two.pulsed second)

namespace Core

/-- The part of the state that is only shown. -/
def unseen (core : Core) : Unseen :=
  ⟨core.hold.endsAt, core.status.lastGesture, core.status.lastGestureAt,
    core.status.counters.dispatched, core.status.counters.dozePulses⟩

/-- The state with another part that is only shown. -/
def withUnseen (core : Core) (unseen : Unseen) : Core :=
  { core with
    hold := { core.hold with endsAt := unseen.endsAt }
    status := { core.status with
      lastGesture := unseen.lastGesture
      lastGestureAt := unseen.lastGestureAt
      counters := { core.status.counters with
        dispatched := unseen.dispatched
        dozePulses := unseen.dozePulses } } }

/-- Two states that differ in what is only shown, and there as a relation allows. -/
def Alike (same : Unseen → Unseen → Prop) (one two : Core) : Prop :=
  ∃ unseen, two = one.withUnseen unseen ∧ same one.unseen unseen

variable {matter : Matter} {same : Unseen → Unseen → Prop} {one two : Core}

theorem about_other {request : Request} (other : request.matter = .other) : About matter request :=
  Or.inr other

theorem Alike.refl (here : same one.unseen one.unseen) : Alike same one one :=
  ⟨one.unseen, rfl, here⟩

/-- A change that has nothing to do with what is only shown. -/
theorem Alike.through (alike : Alike same one two) (change : Core → Core)
    (aside : ∀ core unseen, change (core.withUnseen unseen) = (change core).withUnseen unseen)
    (kept : ∀ core, (change core).unseen = core.unseen) : Alike same (change one) (change two) := by
  obtain ⟨unseen, rfl, here⟩ := alike
  refine ⟨unseen, aside one unseen, ?_⟩
  rw [kept]
  exact here

theorem Alike.ite (condition : Prop) [Decidable condition] {one' two' : Core}
    (yes : Alike same one two) (no : Alike same one' two') :
    Alike same (if condition then one else one') (if condition then two else two') := by
  split
  · exact yes
  · exact no

/-! ### Performing gestures -/

theorem feedback_alike (core : Core) (unseen : Unseen) :
    Beside (About matter) (fun _ _ => True) core.feedback (core.withUnseen unseen).feedback :=
  .ite (.bind (.perform (about_other rfl)) fun _ _ _ => .pure trivial) (.pure trivial)

/-- Arming the hold anew does not look at when it was armed before. -/
theorem acquire_alike (hold : Hold) (endsAt : Int) :
    Beside (About matter)
      (fun first second => ∃ lapse, first = { hold with endsAt := lapse } ∧ second = first)
      hold.acquire { hold with endsAt }.acquire := by
  refine .bind (.now (about_other rfl)) ?_
  rintro now _ rfl
  exact .bind (.perform (about_other rfl)) fun _ _ _ => .pure ⟨now + hold.millis, rfl, rfl⟩

theorem rearCamera_alike (core : Core) (unseen : Unseen) :
    Beside (About matter)
      (fun first second => ∃ lamp, first.2 = { core with lamp } ∧
        second = (first.1, first.2.withUnseen unseen))
      core.rearCamera (core.withUnseen unseen).rearCamera := by
  obtain ⟨_, _, _, ⟨camera, on, armedAt⟩, _, _, _, _, _, _, _⟩ := core
  cases camera with
  | some camera => exact .pure ⟨_, rfl, rfl⟩
  | none =>
    refine .bind (.findCamera (about_other rfl)) ?_
    rintro search _ rfl
    exact .pure ⟨_, rfl, rfl⟩

section Gestures

variable (stable : Stable same)
include stable

theorem toggleTorch_alike (alike : Alike same one two) :
    Beside (About matter) (Alike same) one.toggleTorch two.toggleTorch := by
  obtain ⟨unseen, rfl, here⟩ := alike
  refine .bind (rearCamera_alike one unseen) ?_
  rintro ⟨camera, _⟩ _ ⟨lamp, rfl, rfl⟩
  cases camera with
  | none => exact .pure ⟨unseen, rfl, here⟩
  | some camera =>
    refine .bind (.now (about_other rfl)) ?_
    rintro now _ rfl
    refine .ite (.pure ⟨unseen, rfl, here⟩) (.bind (acquire_alike _ _) ?_)
    rintro _ _ ⟨endsAt, rfl, rfl⟩
    refine .bind (feedback_alike _ unseen) fun _ _ _ => ?_
    refine .bind (.torch (about_other rfl)) ?_
    rintro switched _ rfl
    refine .pure ?_
    cases switched with
    | true => exact ⟨{ unseen with endsAt }, rfl, stable.armed endsAt here⟩
    | false => exact ⟨{ unseen with endsAt }, rfl, stable.armed endsAt here⟩

theorem sendMedia_alike (alike : Alike same one two) (button : MediaButton) :
    Beside (About matter) (Alike same) (one.sendMedia button) (two.sendMedia button) := by
  obtain ⟨unseen, rfl, here⟩ := alike
  refine .bind (acquire_alike _ _) ?_
  rintro _ _ ⟨endsAt, rfl, rfl⟩
  have armed : Alike same { one with hold := { one.hold with endsAt } }
      { one.withUnseen unseen with hold := { one.hold with endsAt } } :=
    ⟨{ unseen with endsAt }, rfl, stable.armed endsAt here⟩
  refine .bind (.systemReady (about_other rfl)) ?_
  rintro ready _ rfl
  refine .ite (.bind (.now (about_other rfl)) ?_) (.pure armed)
  rintro downAt _ rfl
  refine .bind (.perform (about_other rfl)) fun _ _ _ => .bind (.now (about_other rfl)) ?_
  rintro upAt _ rfl
  exact .bind (.perform (about_other rfl)) fun _ _ _ => .pure armed

theorem act_alike (alike : Alike same one two) (action : Action) :
    Beside (About matter) (Alike same) (one.act action) (two.act action) := by
  have felt : ∀ call, About matter (.perform call) → Beside (About matter) (Alike same)
      (do one.feedback; let _ ← Dialogue.perform call; return one : Dialogue Core)
      (do two.feedback; let _ ← Dialogue.perform call; return two : Dialogue Core) := by
    intro call about
    have again := alike
    obtain ⟨unseen, rfl, _⟩ := again
    exact .bind (feedback_alike one unseen) fun _ _ _ =>
      .bind (.perform about) fun _ _ _ => .pure alike
  cases action with
  | torch => exact toggleTorch_alike stable alike
  | media button =>
    have again := alike
    obtain ⟨unseen, rfl, _⟩ := again
    exact .bind (feedback_alike one unseen) fun _ _ _ => sendMedia_alike stable alike button
  | camera => exact felt .launchCamera (about_other rfl)
  | wake => exact felt .wakeUp (about_other rfl)
  | launch component => exact felt (.launch component) (about_other rfl)

omit stable in
theorem slide_alike (core : Core) (unseen : Unseen) (position : Position) :
    Beside (About .mode) (fun _ _ => True) (core.slide position)
      ((core.withUnseen unseen).slide position) := by
  have felt : ∀ effect, Beside (About .mode) (fun _ _ => True)
      (do let _ ← Dialogue.perform (.vibrate effect); return () : Dialogue Unit)
      (do let _ ← Dialogue.perform (.vibrate effect); return () : Dialogue Unit) :=
    fun effect => .bind (.perform (about_other rfl)) fun _ _ _ => .pure trivial
  show Beside _ _ _ (core.slide position)
  unfold slide
  dsimp only
  split
  · exact .pure trivial
  · refine .bind (.perform (Or.inl rfl)) fun _ _ _ => ?_
    split
    · exact .bind (.perform (Or.inl rfl)) fun _ _ _ => felt _
    · exact felt _

/-- **A gesture is performed alike.** -/
theorem dispatch_alike (alike : Alike same one two) (gesture : Gesture) :
    Beside (About gesture.matter) (Alike same) (one.dispatch gesture) (two.dispatch gesture) := by
  have recorded : ∀ {first second : Core}, Alike same first second →
      Beside (About gesture.matter) (Alike same)
        (do let now ← Dialogue.now; return first.withStatus (·.recordGesture gesture now))
        (do let now ← Dialogue.now; return second.withStatus (·.recordGesture gesture now)) := by
    rintro first _ ⟨unseen, rfl, here⟩
    refine .bind (.now (about_other rfl)) ?_
    rintro now _ rfl
    exact .pure ⟨unseen.recorded gesture now, rfl, stable.recorded gesture now here⟩
  cases gesture with
  | run action => exact .bind (act_alike stable alike action) fun _ _ => recorded
  | slide position =>
    have again := alike
    obtain ⟨unseen, rfl, _⟩ := again
    refine .bind (slide_alike one unseen position) fun _ _ _ => ?_
    exact .bind (.pure alike) fun _ _ => recorded

end Gestures

/-! ### Keys -/

theorem submit_alike (alike : Alike same one two) (gesture : Gesture) :
    Beside (About matter) (Alike same) (one.submit gesture) (two.submit gesture) := by
  obtain ⟨unseen, rfl, here⟩ := alike
  refine .bind (.now (about_other rfl)) ?_
  rintro now _ rfl
  obtain ⟨_, _, _, _, _, ⟨pending, _⟩, _, _, _, _, _⟩ := one
  cases pending with
  | none => exact .pure ⟨unseen, rfl, here⟩
  | some waiting => exact .pure ⟨unseen, rfl, here⟩

/-- What is about the slider apart, the consequence of a key comes about alike. -/
theorem follow_alike (stable : Stable same) (alike : Alike same one two)
    (entry : Route × Option Consequence)
    (about : ∀ position, entry.2 = some (.slide position) → matter = .mode) :
    Beside (About matter) (fun first second => first.1 = second.1 ∧ Alike same first.2 second.2)
      (one.follow entry) (two.follow entry) := by
  obtain ⟨route, consequence⟩ := entry
  cases consequence with
  | none => exact .pure ⟨rfl, alike⟩
  | some consequence =>
    cases consequence with
    | block =>
      obtain ⟨unseen, rfl, here⟩ := alike
      exact .pure ⟨rfl, unseen, rfl, here⟩
    | slide position =>
      obtain rfl := about position rfl
      exact .bind (dispatch_alike stable alike (.slide position)) fun _ _ next => .pure ⟨rfl, next⟩
    | submit action =>
      exact .bind (submit_alike alike (.run action)) fun _ _ next => .pure ⟨rfl, next⟩
    | launchCamera => exact .bind (.perform (about_other rfl)) fun _ _ _ => .pure ⟨rfl, alike⟩
    | wakeUp => exact .bind (.perform (about_other rfl)) fun _ _ _ => .pure ⟨rfl, alike⟩

theorem hears_alike (event : KeyEvent) : Beside (About matter) Eq event.hears event.hears := by
  unfold KeyEvent.hears
  split
  · exact .ite (.musicActive (about_other rfl)) (.pure rfl)
  · exact .pure rfl

/-- Only the slider comes to a slider move. -/
theorem key_of_slide {core : Core} {heard : Bool} {key : Key} {position : Position}
    (slide : (core.releaseEntry heard key).2 = some (.slide position)) :
    key = .slider position := by
  have bound : ∀ channel, (core.boundEntry channel).2 ≠ some (.slide position) := by
    intro channel
    unfold boundEntry
    split
    · exact nofun
    · exact nofun
  unfold releaseEntry at slide
  grind

theorem position?_release (key : Key) :
    (KeyEvent.release key.scanCode).position? = key.position? := by
  have release : (KeyEvent.release key.scanCode).isRelease = true := rfl
  unfold KeyEvent.position?
  rw [if_pos release, key?_release, Option.bind_some]

theorem eq_release_of_position? {event : KeyEvent} {position : Position}
    (found : event.position? = some position) :
    event = .release (Key.slider position).scanCode := by
  unfold KeyEvent.position? at found
  split at found
  · next release =>
    obtain ⟨key, known, slider⟩ := Option.bind_eq_some_iff.mp found
    have same : key = .slider position := by
      cases key with
      | slider other => exact congrArg Key.slider (Option.some.inj slider)
      | drawn | doubleTap | navigation => cases slider
    exact eq_release (eq_of_beq release) (same ▸ known)
  · cases found

theorem Alike.swallows (alike : Alike same one two) (code : ScanCode) :
    two.swallows code = one.swallows code := by
  obtain ⟨unseen, rfl, _⟩ := alike
  rfl

theorem Alike.releaseEntry (alike : Alike same one two) (heard : Bool) (key : Key) :
    two.releaseEntry heard key = one.releaseEntry heard key := by
  obtain ⟨unseen, rfl, _⟩ := alike
  have keys : (one.withUnseen unseen).keysDisabled = one.keysDisabled := rfl
  have covered : (one.withUnseen unseen).isCovered = one.isCovered := rfl
  have table : (one.withUnseen unseen).table = one.table := rfl
  unfold Core.releaseEntry boundEntry
  rw [keys, covered, table]

/-- **A key is routed alike.** -/
theorem route_alike (stable : Stable same) (alike : Alike same one two) (event : KeyEvent) :
    Beside (About (Step.key event).matter)
      (fun first second => first.1 = second.1 ∧ Alike same first.2 second.2)
      (one.route event) (two.route event) := by
  by_cases idle : event.IsIdle
  · rw [route_idle one idle, route_idle two idle, alike.swallows]
    exact .pure ⟨rfl, alike⟩
  · obtain ⟨release, known⟩ := Classical.not_imp.mp idle
    obtain ⟨key, found⟩ := Option.ne_none_iff_exists'.mp known
    obtain rfl := eq_release (eq_of_beq release) found
    rw [route_release, route_release]
    refine .bind (hears_alike _) ?_
    rintro heard _ rfl
    rw [alike.releaseEntry]
    refine follow_alike stable alike (one.releaseEntry heard key) fun position slide => ?_
    obtain rfl := key_of_slide slide
    exact congrArg (fun found : Option Position => if found.isSome then Matter.mode else .other)
      (position?_release (.slider position))

/-! ### Reports -/

theorem displayChanged_alike (alike : Alike same one two) (on : Bool) :
    Beside (About matter) (Alike same) (one.displayChanged on) (two.displayChanged on) := by
  obtain ⟨unseen, rfl, here⟩ := alike
  have opened : Beside (About matter) Eq (one.sensorsFor on)
      ((one.withUnseen unseen).sensorsFor on) := by
    refine .ite (.pure rfl) (.bind (.now (about_other rfl)) ?_)
    rintro now _ rfl
    exact .pure rfl
  refine .ite (.pure ⟨unseen, rfl, here⟩) (.bind opened ?_)
  rintro sensors _ rfl
  have started : Beside (About matter) (Alike same)
      ({ one with screenOn := on, sensors }.listen sensors.listening)
      ({ one.withUnseen unseen with screenOn := on, sensors }.listen sensors.listening) :=
    .bind (.perform (about_other rfl)) fun _ _ _ => .bind (.perform (about_other rfl))
      fun _ _ _ => .pure ⟨unseen, rfl, here⟩
  refine .bind started ?_
  rintro listened _ ⟨unseen, rfl, here⟩
  exact .pure ⟨unseen, rfl, here⟩

/-- Whether a pulse was sent is only counted. -/
theorem pulse_alike (woken : Woken same) (alike : Alike same one two) :
    Beside (About .waking) (Alike same) one.pulse two.pulse := by
  obtain ⟨unseen, rfl, here⟩ := alike
  refine .bind (.perform (Or.inl rfl)) fun first second _ => ?_
  have counted := woken first second here
  cases first with
  | true =>
    cases second with
    | true => exact .pure ⟨unseen.pulsed true, rfl, counted⟩
    | false => exact .pure ⟨unseen.pulsed false, rfl, counted⟩
  | false =>
    cases second with
    | true => exact .pure ⟨unseen.pulsed true, rfl, counted⟩
    | false => exact .pure ⟨unseen.pulsed false, rfl, counted⟩

theorem proximityReported_alike (woken : Woken same) (alike : Alike same one two)
    (sample : ProximitySample) :
    Beside (About .waking) (Alike same) (one.proximityReported sample)
      (two.proximityReported sample) := by
  refine .bind (.now (about_other rfl)) ?_
  rintro now _ rfl
  have sampled : Alike same (one.sampled sample now) (two.sampled sample now) := by
    refine alike.through (·.sampled sample now) (fun core unseen => ?_) fun core => ?_
    · cases opened : core.sensors.window with
      | none =>
        have closed : (core.withUnseen unseen).sensors.window = none := opened
        rw [sampled_closed opened, sampled_closed closed]
      | some window =>
        have other : (core.withUnseen unseen).sensors.window = some window := opened
        rw [sampled_open opened, sampled_open other]
        rfl
    · cases opened : core.sensors.window with
      | none => rw [sampled_closed opened]
      | some window =>
        rw [sampled_open opened]
        rfl
  obtain ⟨unseen, rfl, _⟩ := alike
  exact .ite (pulse_alike woken sampled) (.pure sampled)

theorem tiltReported_alike (woken : Woken same) (alike : Alike same one two) (triggered : Bool) :
    Beside (About .waking) (Alike same) (one.tiltReported triggered)
      (two.tiltReported triggered) := by
  refine .bind (.now (about_other rfl)) ?_
  rintro now _ rfl
  obtain ⟨unseen, rfl, here⟩ := alike
  have tilted : Alike same { one with sensors := (one.sensors.tilt triggered now).2 }
      { one.withUnseen unseen with sensors := (one.sensors.tilt triggered now).2 } :=
    ⟨unseen, rfl, here⟩
  exact .ite (pulse_alike woken tilted) (.pure tilted)

theorem syncSwitches_alike (alike : Alike same one two) :
    Alike same one.syncSwitches two.syncSwitches := by
  refine alike.through syncSwitches (fun core unseen => ?_) fun core => ?_
  · obtain ⟨_, _, _, _, _, _, _, _, _, _, switches⟩ := core
    cases switches with
    | none => rfl
    | some panel => rfl
  · obtain ⟨_, _, _, _, _, _, _, _, _, _, switches⟩ := core
    cases switches with
    | none => rfl
    | some panel => rfl

theorem refreshKeys_alike (alike : Alike same one two) :
    Beside (About matter) (Alike same) one.refreshKeys two.refreshKeys := by
  obtain ⟨unseen, rfl, here⟩ := alike
  have gated : Beside (About matter) (Alike same) one.refreshGate
      (one.withUnseen unseen).refreshGate :=
    .bind (.perform (about_other rfl)) fun _ _ _ => .pure ⟨unseen, rfl, here⟩
  refine .bind gated ?_
  rintro first _ ⟨unseen, rfl, here⟩
  exact .pure ⟨unseen, rfl, here⟩

theorem applyChange_alike (alike : Alike same one two) (change : Change) :
    Beside (About matter) (Alike same) (one.applyChange change) (two.applyChange change) := by
  have checked : ∀ first second, Alike same first second →
      Alike same
        (if change.touches Settings.proximityCheckName then first.refreshProximityCheck else first)
        (if change.touches Settings.proximityCheckName then second.refreshProximityCheck
          else second) := by
    rintro first _ ⟨unseen, rfl, here⟩
    exact .ite _ ⟨unseen, rfl, here⟩ ⟨unseen, rfl, here⟩
  exact .ite (.bind (refreshKeys_alike alike) fun _ _ next => .pure (checked _ _ next))
    (.bind (.pure alike) fun _ _ next => .pure (checked _ _ next))

/-- **A change of the settings is taken over alike.** -/
theorem settingsChanged_alike (alike : Alike same one two) (change : Change) :
    Beside (About matter) (Alike same) (one.settingsChanged change)
      (two.settingsChanged change) := by
  have shown : ∀ first second, Alike same first second →
      Alike same
        (first.withStatus fun status =>
          { status with settingsRevision := change.revision, lastSettingsError := none })
        (second.withStatus fun status =>
          { status with settingsRevision := change.revision, lastSettingsError := none }) := by
    rintro first _ ⟨unseen, rfl, here⟩
    exact ⟨unseen, rfl, here⟩
  refine .bind (applyChange_alike alike change) fun first second applied => .pure ?_
  have configured : Alike same
      { first with
        sensors := first.sensors.configure (Settings.doze first.table)
          (Settings.proximityCheck first.table) }
      { second with
        sensors := second.sensors.configure (Settings.doze second.table)
          (Settings.proximityCheck second.table) } := by
    obtain ⟨unseen, rfl, here⟩ := applied
    exact ⟨unseen, rfl, here⟩
  have sensed := Alike.ite ((change.touches Settings.dozeName ||
    change.touches Settings.proximityCheckName) = true) configured applied
  exact shown _ _ (.ite _ (syncSwitches_alike sensed) sensed)

theorem torchReported_alike (alike : Alike same one two) (camera : String) (on : Bool) :
    Alike same (one.torchReported camera on) (two.torchReported camera on) := by
  obtain ⟨unseen, rfl, here⟩ := alike
  exact .ite _ ⟨unseen, rfl, here⟩ ⟨unseen, rfl, here⟩

/-- **A report is handled alike.** -/
theorem handle_alike (alike : Alike same one two) {event : Event}
    (woken : (Step.report event).matter = .waking → Woken same) :
    Beside (About (Step.report event).matter)
      (fun first second => first.1 = second.1 ∧ Alike same first.2 second.2)
      (one.handle event) (two.handle event) := by
  cases event with
  | display on =>
    exact .bind (displayChanged_alike alike on) fun _ _ next => .pure ⟨rfl, next⟩
  | proximity sample =>
    exact .bind (proximityReported_alike (woken rfl) alike sample) fun _ _ next => .pure ⟨rfl, next⟩
  | tilt triggered =>
    exact .bind (tiltReported_alike (woken rfl) alike triggered) fun _ _ next => .pure ⟨rfl, next⟩
  | torchMode camera on => exact .pure ⟨rfl, torchReported_alike alike camera on⟩
  | torchGone camera => exact .pure ⟨rfl, torchReported_alike alike camera false⟩
  | settingsChanged change =>
    exact .bind (settingsChanged_alike alike change) fun _ _ next => .pure ⟨rfl, next⟩
  | shutdown => exact .pure ⟨rfl, alike⟩

theorem deliver_alike (alike : Alike same one two) (listener place : Nat) :
    Beside (About .other) (Alike same) (one.deliver listener place)
      (two.deliver listener place) := by
  obtain ⟨unseen, rfl, here⟩ := alike
  have waiting : Alike same { one with store := one.store.handOut listener place }
      { one.withUnseen unseen with store := one.store.handOut listener place } :=
    ⟨unseen, rfl, here⟩
  have unread : (one.withUnseen unseen).store.unread listener = one.store.unread listener := rfl
  unfold deliver
  rw [unread]
  cases (one.store.unread listener)[place]? with
  | none => exact .pure ⟨unseen, rfl, here⟩
  | some change =>
    have quiet : (Step.report (.settingsChanged change)).matter ≠ .waking := nofun
    exact .bind (handle_alike waiting fun waking => absurd waking quiet) fun _ _ next =>
      .pure next.2

/-- **From states that are alike a step makes the same requests, and leaves states that are
alike.** -/
theorem step_alike (step : Step) (stable : Stable same) (woken : step.matter = .waking → Woken same)
    (alike : Alike same one two) :
    Beside (About step.matter) (Alike same) (one.step step) (two.step step) := by
  cases step with
  | key event => exact .bind (route_alike stable alike event) fun _ _ next => .pure next.2
  | report event => exact .bind (handle_alike alike woken) fun _ _ next => .pure next.2
  | deliver listener place => exact deliver_alike alike listener place
  | take =>
    obtain ⟨unseen, rfl, here⟩ := alike
    exact .pure ⟨unseen, rfl, here⟩
  | dispatch gesture => exact dispatch_alike stable alike gesture
  | settings deed =>
    obtain ⟨unseen, rfl, here⟩ := alike
    exact .pure ⟨unseen, rfl, here⟩

/-- **A step asks for nothing that it is not about**, and counts a pulse only if it is about waking
the screen. -/
theorem step_about (core : Core) (step : Step) :
    (core.step step).Ensures (About step.matter) fun next => step.matter ≠ .waking →
      next.status.counters.dozePulses = core.status.counters.dozePulses := by
  let same : Unseen → Unseen → Prop := fun unseen _ =>
    step.matter ≠ .waking → unseen.dozePulses = core.status.counters.dozePulses
  have stable : Stable same := ⟨fun _ here => here, fun _ _ here => here⟩
  have woken : step.matter = .waking → Woken same := fun waking _ _ _ _ _ other =>
    absurd waking other
  have start : core.Alike same core := .refl fun _ => rfl
  have beside := step_alike step stable woken start
  refine beside.ensures.imp fun next final => ?_
  obtain ⟨_, unseen, _, here⟩ := final
  exact here

end Core

end TouchDispatch
