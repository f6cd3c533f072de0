/-
**What becomes of each key event.**

Several questions are asked about a key event, one after another, and each looks at the gate, at the
sensor and at the binding for itself. Taken together they come to one table:

* `Consequence`, `Core.follow`: the one thing that a key event may cause, and how it comes about;
* `Core.releaseEntry`, `Core.entry`: the table, with what becomes of an event and what it causes;
* `KeyEvent.hears`: whether music is playing, which is asked only if the table depends on it;
* `Core.questions`: what is asked about an event that was not handled, and `route_ignored`: what
  becomes of it if the answer is no each time;
* `route_navigation`, `route_slider` and so on: what becomes of each kind of key that is let go, and
  `route_idle`: what becomes of all other events;
* `routed_by_table`: **every key event is routed by the table, and no event ends up as disabled.**
-/

import TouchDispatch.Proofs.Daemon.Blocking

namespace TouchDispatch

open Dialogue

/-! ### The table -/

/-- The one thing that a key event may cause. -/
inductive Consequence where
  /-- The key is counted as blocked. -/
  | block
  /-- A slider move is performed at once. -/
  | slide (position : Position)
  /-- An action is put into the slot. -/
  | submit (action : Action)
  | launchCamera
  | wakeUp
deriving DecidableEq, Repr

/-- A gesture that counts only while music is playing. -/
def Channel.needsMusic : Channel → Bool
  | .leftV | .rightV => true
  | _ => false

/-- Whether a gesture is heard: some count only while music is playing. -/
def Channel.hears (channel : Channel) : Dialogue Bool :=
  if channel.needsMusic then Dialogue.musicActive else return true

/-- Whether a key event is heard. Letting go of some drawn gestures counts only while music is
playing. -/
def KeyEvent.hears (event : KeyEvent) : Dialogue Bool :=
  match event.phase, event.key?.bind Key.channel? with
  | .release, some channel => channel.hears
  | _, _ => return true

/-- An event that lets go of no key here. -/
def KeyEvent.IsIdle (event : KeyEvent) : Prop :=
  event.isRelease = true → event.key? = none

namespace Core

/-- How the consequence of a key event comes about. -/
def follow (core : Core) : Route × Option Consequence → Dialogue (Route × Core)
  | (route, none) => return (route, core)
  | (route, some .block) => return (route, core.withStatus Status.countBlocked)
  | (route, some (.slide position)) => do
    let core ← core.dispatch (.slide position)
    return (route, core)
  | (route, some (.submit action)) => do
    let core ← core.submit (.run action)
    return (route, core)
  | (route, some .launchCamera) => do
    let _ ← Dialogue.perform .launchCamera
    return (route, core)
  | (route, some .wakeUp) => do
    let _ ← Dialogue.perform .wakeUp
    return (route, core)

/-- Something covers the proximity sensor, and that is looked at. -/
def isCovered (core : Core) : Bool :=
  core.proximityCheck && core.sensors.near

/-- What becomes of a gesture whose binding is put into the slot. -/
def boundEntry (core : Core) (channel : Channel) : Route × Option Consequence :=
  match Settings.binding core.table channel with
  | .disabled => (.passed, none)
  | .run action => (.consumed, some (.submit action))

/-- What becomes of a key that is let go, and what it causes. -/
def releaseEntry (core : Core) (heard : Bool) : Key → Route × Option Consequence
  | .navigation _ => (if core.keysDisabled then .consumed else .passed, none)
  | .slider position => (.consumed, some (.slide position))
  | .doubleTap => if core.isCovered then (.consumed, some .block) else (.wake, some .wakeUp)
  | .drawn .circle =>
    if core.isCovered then (.consumed, some .block)
    else if (Settings.binding core.table .circle).isEnabled then
      (.cameraLaunch, some .launchCamera)
    else (.passed, none)
  | .drawn .v => if core.isCovered then (.consumed, some .block) else core.boundEntry .v
  | .drawn .twoFingerSwipe => core.boundEntry .twoFingerSwipe
  | .drawn .leftV => if heard then core.boundEntry .leftV else (.passed, none)
  | .drawn .rightV => if heard then core.boundEntry .rightV else (.passed, none)

/-- What becomes of a key event, and what it causes. A key that is pressed or held causes nothing,
and only the navigation keys are swallowed. -/
def entry (core : Core) (heard : Bool) (event : KeyEvent) : Route × Option Consequence :=
  match event.phase, event.key? with
  | .release, some key => core.releaseEntry heard key
  | .release, none => (.passed, none)
  | _, key => (if core.keysDisabled && key.any Key.isNavigation then .consumed else .passed, none)

/-! ### The questions -/

/-- What is still asked about an event that was not handled. -/
def questions (core : Core) (event : KeyEvent) : Dialogue (Route × Core) :=
  if core.isDisabled event then return (.disabled, core)
  else if core.isCameraLaunch event then core.follow (.cameraLaunch, some .launchCamera)
  else if isWake event then core.follow (.wake, some .wakeUp)
  else return (.passed, core)

/-- An event that none of the questions is about. -/
structure Unasked (core : Core) (event : KeyEvent) : Prop where
  enabled : core.isDisabled event = false
  camera : core.isCameraLaunch event = false
  wake : isWake event = false

section Questions

variable {core : Core} {event : KeyEvent}

/-- What is handled is not asked about any further. -/
theorem route_of_handled {done : Dialogue Core}
    (handled : core.handleKey event = do let next ← done; return (true, next)) :
    core.route event = do let next ← done; return (.consumed, next) := by
  unfold route
  rw [handled, bind_assoc]
  rfl

theorem route_of_unhandled (unhandled : core.handleKey event = return (false, core)) :
    core.route event = core.questions event := by
  unfold route
  rw [unhandled, pure_bind]
  rfl

theorem questions_unasked (unasked : core.Unasked event) :
    core.questions event = return (.passed, core) := by
  unfold questions
  rw [unasked.enabled, unasked.camera, unasked.wake]
  rfl

/-- An event that comes to nothing is swallowed or passed on. -/
theorem route_ignored (classified : core.classify event = return .notHandled)
    (unasked : core.swallows event.code = false → core.Unasked event) :
    core.route event =
      return (if core.swallows event.code then .consumed else .passed, core) := by
  cases swallowed : core.swallows event.code with
  | true =>
    have handled : core.handleKey event =
        (return core : Dialogue Core) >>= fun next => return (true, next) := by
      unfold handleKey
      rw [if_pos swallowed]
      rfl
    rw [route_of_handled handled]
    rfl
  | false =>
    have unhandled : core.handleKey event = return (false, core) := by
      unfold handleKey
      rw [swallowed, if_neg Bool.false_ne_true, classified]
      rfl
    rw [route_of_unhandled unhandled, questions_unasked (unasked swallowed)]
    rfl

end Questions

/-! ### Keys that are let go -/

section Released

variable {core : Core} {key : Key}

@[simp]
theorem key?_release (key : Key) : (KeyEvent.release key.scanCode).key? = some key := by
  rcases key with (_ | _ | _ | _ | _) | _ | (_ | _ | _) | (_ | _ | _) <;> rfl

theorem eq_release {event : KeyEvent} (released : event.phase = .release)
    (found : event.key? = some key) : event = .release key.scanCode := by
  have listed : Key.all.find? (fun key => key.scanCode = event.code) = some key := found
  have same := List.find?_some listed
  have code : key.scanCode = event.code := of_decide_eq_true same
  rw [code, KeyEvent.release, ← released]

theorem swallows_release (core : Core) (key : Key) :
    core.swallows (KeyEvent.release key.scanCode).code =
      (core.keysDisabled && key.isNavigation) := by
  have found : Key.ofScanCode? (KeyEvent.release key.scanCode).code = some key := key?_release key
  unfold swallows
  rw [found]
  rfl

theorem classify_release (core : Core) (key : Key) :
    core.classify (.release key.scanCode) = core.judge key := by
  have release : (KeyEvent.release key.scanCode).isRelease = true := rfl
  unfold classify
  rw [if_pos release, key?_release]

theorem isDisabled_release (core : Core) (key : Key) :
    core.isDisabled (.release key.scanCode) =
      (core.keysDisabled && key.isNavigation || core.blocks key) := by
  unfold isDisabled
  rw [swallows_release, key?_release]
  rfl

/-- The circle starts the camera, unless its binding is disabled. -/
theorem isCameraLaunch_circle (core : Core) :
    core.isCameraLaunch (.release (Key.drawn .circle).scanCode) =
      (Settings.binding core.table .circle).isEnabled :=
  Bool.true_and _

/-- Only the circle starts the camera. -/
theorem isCameraLaunch_release (core : Core) {key : Key} (other : key ≠ .drawn .circle) :
    core.isCameraLaunch (.release key.scanCode) = false := by
  have code : ((KeyEvent.release key.scanCode).code == (Key.drawn .circle).scanCode) = false := by
    rcases key with (_ | _ | _ | _ | _) | _ | (_ | _ | _) | (_ | _ | _)
    case drawn.circle => exact absurd rfl other
    all_goals rfl
  unfold isCameraLaunch
  rw [code, Bool.and_false, Bool.false_and]

/-- Only the double tap wakes the device. -/
theorem isWake_release {key : Key} (other : key ≠ .doubleTap) :
    isWake (.release key.scanCode) = false := by
  rcases key with (_ | _ | _ | _ | _) | _ | (_ | _ | _) | (_ | _ | _)
  case doubleTap => exact absurd rfl other
  all_goals rfl

/-- How a key is handled, by what it comes to. -/
def handleVerdict (core : Core) : Verdict → Dialogue (Bool × Core)
  | .notHandled => return (false, core)
  | .blocked => return (true, core.withStatus Status.countBlocked)
  | .gesture (.slide position) => do
    let next ← core.dispatch (.slide position)
    return (true, next)
  | .gesture (.run action) => do
    let next ← core.submit (.run action)
    return (true, next)

/-- A key that is not swallowed is handled by what it comes to. -/
theorem handleKey_release (drawn : key.isNavigation = false) :
    core.handleKey (.release key.scanCode) = core.judge key >>= core.handleVerdict := by
  unfold handleKey
  rw [swallows_release, drawn, Bool.and_false, if_neg Bool.false_ne_true, classify_release]
  rfl

/-- A key that comes to nothing by itself is only asked about. -/
theorem route_unhandled (drawn : key.isNavigation = false)
    (judged : core.judge key = return .notHandled) :
    core.route (.release key.scanCode) = core.questions (.release key.scanCode) := by
  refine route_of_unhandled ?_
  rw [handleKey_release drawn, judged]
  rfl

theorem isDisabled_free (drawn : key.isNavigation = false) (free : core.blocks key = false) :
    core.isDisabled (.release key.scanCode) = false := by
  rw [isDisabled_release, drawn, free, Bool.and_false, Bool.or_false]

/-- A navigation key is swallowed or passed on. -/
theorem route_navigation (core : Core) (key : NavigationKey) :
    core.route (.release (Key.navigation key).scanCode) =
      return (if core.keysDisabled then .consumed else .passed, core) := by
  have swallows : core.swallows (KeyEvent.release (Key.navigation key).scanCode).code =
      core.keysDisabled := (swallows_release core _).trans (Bool.and_true _)
  have circle : Key.navigation key ≠ .drawn .circle := nofun
  have doubleTap : Key.navigation key ≠ .doubleTap := nofun
  rw [← swallows]
  refine route_ignored (classify_release core _) fun free => ?_
  refine ⟨?_, isCameraLaunch_release core circle, isWake_release doubleTap⟩
  rw [isDisabled_release, ← swallows_release, free]
  rfl

/-- A slider move is performed at once. -/
theorem route_slider (core : Core) (position : Position) :
    core.route (.release (Key.slider position).scanCode) =
      core.follow (.consumed, some (.slide position)) := by
  have handled : core.handleKey (.release (Key.slider position).scanCode) =
      core.dispatch (.slide position) >>= fun next => return (true, next) := by
    rw [handleKey_release rfl]
    rfl
  exact route_of_handled handled

/-- A key that is blocked is only counted. -/
theorem route_blocked (blocks : core.blocks key = true) :
    core.route (.release key.scanCode) = core.follow (.consumed, some .block) := by
  have handled : core.handleKey (.release key.scanCode) =
      (return core.withStatus Status.countBlocked : Dialogue Core) >>= fun next =>
        return (true, next) :=
    handleKey_of_blocks rfl (key?_release key) blocks
  exact route_of_handled handled

/-- A circle that is not blocked starts the camera, unless its binding is disabled. -/
theorem route_circle (free : core.blocks (.drawn .circle) = false) :
    core.route (.release (Key.drawn .circle).scanCode) = core.follow
      (if (Settings.binding core.table .circle).isEnabled then (.cameraLaunch, some .launchCamera)
        else (.passed, none)) := by
  have judged : core.judge (.drawn .circle) = return .notHandled := by
    unfold judge
    rw [free]
    rfl
  have doubleTap : Key.drawn .circle ≠ .doubleTap := nofun
  rw [route_unhandled rfl judged]
  unfold questions
  rw [isDisabled_free rfl free, isCameraLaunch_circle, isWake_release doubleTap]
  cases (Settings.binding core.table .circle).isEnabled with
  | true => rfl
  | false => rfl

/-- The double tap wakes the device. -/
theorem route_doubleTap (free : core.blocks .doubleTap = false) :
    core.route (.release Key.doubleTap.scanCode) = core.follow (.wake, some .wakeUp) := by
  have judged : core.judge .doubleTap = return .notHandled := by
    unfold judge
    rw [free]
    rfl
  have asked : isWake (.release Key.doubleTap.scanCode) = true := rfl
  have circle : Key.doubleTap ≠ .drawn .circle := nofun
  rw [route_unhandled rfl judged]
  unfold questions
  rw [isDisabled_free rfl free, isCameraLaunch_release core circle, asked]
  rfl

theorem hears_always {channel : Channel} (always : channel.needsMusic = false) :
    channel.hears = return true := by
  unfold Channel.hears
  rw [always, if_neg Bool.false_ne_true]

theorem judge_drawn {channel : Channel} (other : channel ≠ .circle)
    (free : core.blocks (.drawn channel) = false) :
    core.judge (.drawn channel) = do
      let heard ← channel.hears
      return if heard then core.bound channel else .notHandled := by
  cases channel with
  | circle => exact absurd rfl other
  | v =>
    unfold judge
    rw [free]
    rfl
  | twoFingerSwipe =>
    rw [hears_always rfl, pure_bind, if_pos rfl]
    rfl
  | leftV | rightV => rfl

/-- **A drawn gesture other than the circle is put into the slot**, if it is heard and its binding
is not disabled. -/
theorem route_drawn {channel : Channel} (other : channel ≠ .circle)
    (free : core.blocks (.drawn channel) = false) :
    core.route (.release (Key.drawn channel).scanCode) = channel.hears >>= fun heard =>
      core.follow (if heard then core.boundEntry channel else (.passed, none)) := by
  have passed : core.questions (.release (Key.drawn channel).scanCode) = return (.passed, core) := by
    have circle : Key.drawn channel ≠ .drawn .circle := fun same => other (Key.drawn.inj same)
    have doubleTap : Key.drawn channel ≠ .doubleTap := nofun
    exact questions_unasked ⟨isDisabled_free rfl free, isCameraLaunch_release core circle,
      isWake_release doubleTap⟩
  unfold route
  rw [handleKey_release rfl, judge_drawn other free, bind_assoc, bind_assoc]
  refine bind_congr fun heard => ?_
  rw [pure_bind]
  cases heard with
  | false => exact passed
  | true =>
    rw [if_pos rfl, if_pos rfl]
    unfold bound boundEntry
    cases Settings.binding core.table channel with
    | disabled => exact passed
    | run action =>
      show (core.submit (.run action) >>= fun next => return (true, next)) >>= _ = _
      rw [bind_assoc]
      rfl

/-- A drawn gesture that counts without music, too. -/
theorem route_heard {channel : Channel} (other : channel ≠ .circle)
    (always : channel.needsMusic = false) (free : core.blocks (.drawn channel) = false) :
    core.route (.release (Key.drawn channel).scanCode) = core.follow (core.boundEntry channel) := by
  rw [route_drawn other free, hears_always always, pure_bind, if_pos rfl]

/-! ### The whole table -/

theorem blocks_checked {key : Key} (checked : key.isProximityChecked = true) :
    core.blocks key = core.isCovered := by
  unfold blocks isCovered
  rw [checked, Bool.true_and]

theorem blocks_unchecked {key : Key} (unchecked : key.isProximityChecked = false) :
    core.blocks key = false := by
  unfold blocks
  rw [unchecked, Bool.false_and, Bool.false_and]

theorem hears_drawn (channel : Channel) :
    (KeyEvent.release (Key.drawn channel).scanCode).hears = channel.hears := by
  unfold KeyEvent.hears
  rw [key?_release]
  rfl

theorem hears_other {key : Key} (other : key.channel? = none) :
    (KeyEvent.release key.scanCode).hears = return true := by
  unfold KeyEvent.hears
  rw [key?_release, Option.bind_some, other]
  rfl

/-- A key that the sensor may block: it is only counted, or what becomes of it is up to the rest of
the table. -/
theorem route_checked (checked : key.isProximityChecked = true)
    {entry : Route × Option Consequence}
    (free : core.blocks key = false → core.route (.release key.scanCode) = core.follow entry) :
    core.route (.release key.scanCode) =
      core.follow (if core.isCovered then (.consumed, some .block) else entry) := by
  have same : core.blocks key = core.isCovered := blocks_checked checked
  cases covered : core.isCovered with
  | true => exact route_blocked (same.trans covered)
  | false => exact free (same.trans covered)

/-- **What becomes of a key that is let go.** -/
theorem route_release (core : Core) (key : Key) :
    core.route (.release key.scanCode) = (KeyEvent.release key.scanCode).hears >>= fun heard =>
      core.follow (core.releaseEntry heard key) := by
  cases key with
  | navigation key =>
    rw [hears_other rfl, pure_bind]
    exact route_navigation core key
  | slider position =>
    rw [hears_other rfl, pure_bind]
    exact route_slider core position
  | doubleTap =>
    rw [hears_other rfl, pure_bind]
    exact route_checked rfl route_doubleTap
  | drawn channel =>
    rw [hears_drawn]
    cases channel with
    | circle =>
      rw [hears_always rfl, pure_bind]
      exact route_checked rfl route_circle
    | v =>
      have bound : core.blocks (.drawn .v) = false →
          core.route (.release (Key.drawn .v).scanCode) = core.follow (core.boundEntry .v) :=
        route_heard nofun rfl
      rw [hears_always rfl, pure_bind]
      exact route_checked rfl bound
    | twoFingerSwipe =>
      rw [hears_always rfl, pure_bind]
      have free : core.blocks (.drawn .twoFingerSwipe) = false := blocks_unchecked rfl
      exact route_heard nofun rfl free
    | leftV =>
      have free : core.blocks (.drawn .leftV) = false := blocks_unchecked rfl
      exact route_drawn nofun free
    | rightV =>
      have free : core.blocks (.drawn .rightV) = false := blocks_unchecked rfl
      exact route_drawn nofun free

end Released

section Others

variable {event : KeyEvent}

theorem code_ne (none : event.key? = none) (key : Key) : (event.code == key.scanCode) = false := by
  refine beq_eq_false_iff_ne.mpr fun same => ?_
  have found : Key.ofScanCode? key.scanCode = some key := key?_release key
  rw [← same] at found
  cases none.symm.trans found

theorem classify_idle (core : Core) (idle : event.IsIdle) :
    core.classify event = return .notHandled := by
  unfold classify
  split
  · next release => rw [idle release]
  · rfl

/-- No question is about a key event that lets go of no key here. -/
theorem unasked_idle {core : Core} (idle : event.IsIdle) (free : core.swallows event.code = false) :
    core.Unasked event := by
  unfold KeyEvent.IsIdle at idle
  constructor
  case enabled =>
    unfold isDisabled
    cases release : event.isRelease with
    | false => rfl
    | true =>
      rw [free, idle release]
      rfl
  case camera =>
    unfold isCameraLaunch
    cases release : event.isRelease with
    | false => rfl
    | true =>
      rw [code_ne (idle release)]
      rfl
  case wake =>
    unfold isWake
    cases release : event.isRelease with
    | false => rfl
    | true => exact code_ne (idle release) .doubleTap

/-- **A key event that lets go of no key here is swallowed or passed on.** -/
theorem route_idle (core : Core) (idle : event.IsIdle) :
    core.route event =
      return (if core.swallows event.code then .consumed else .passed, core) :=
  route_ignored (classify_idle core idle) (unasked_idle idle)

theorem hears_idle (idle : event.IsIdle) : event.hears = return true := by
  unfold KeyEvent.hears
  split
  · next released found =>
    rw [idle (beq_iff_eq.mpr released)] at found
    cases found
  · rfl

theorem entry_idle (core : Core) (heard : Bool) (idle : event.IsIdle) :
    core.entry heard event = (if core.swallows event.code then .consumed else .passed, none) := by
  have looked : core.swallows event.code = (core.keysDisabled && event.key?.any Key.isNavigation) :=
    rfl
  rw [looked]
  unfold entry
  split
  · next released found =>
    rw [idle (beq_iff_eq.mpr released)] at found
    cases found
  · next none =>
    rw [none, Option.any_none, Bool.and_false]
    rfl
  · rfl

end Others

theorem entry_release (core : Core) (heard : Bool) (key : Key) :
    core.entry heard (.release key.scanCode) = core.releaseEntry heard key := by
  unfold entry
  rw [key?_release]
  rfl

theorem gated_ne_disabled (gate : Bool) :
    (if gate then Route.consumed else .passed) ≠ .disabled := by
  split
  · exact nofun
  · exact nofun

theorem releaseEntry_ne_disabled (core : Core) (heard : Bool) (key : Key) :
    (core.releaseEntry heard key).1 ≠ .disabled := by
  have either : ∀ (condition : Bool) {yes no : Route × Option Consequence}, yes.1 ≠ .disabled →
      no.1 ≠ .disabled → (if condition then yes else no).1 ≠ .disabled := by
    intro condition yes no left right
    split
    · exact left
    · exact right
  have bound : ∀ channel, (core.boundEntry channel).1 ≠ .disabled := by
    intro channel
    unfold boundEntry
    split
    · exact nofun
    · exact nofun
  cases key with
  | navigation key => exact gated_ne_disabled core.keysDisabled
  | slider position => exact nofun
  | doubleTap => exact either _ nofun nofun
  | drawn channel =>
    cases channel with
    | circle => exact either _ nofun (either _ nofun nofun)
    | v => exact either _ nofun (bound .v)
    | twoFingerSwipe => exact bound .twoFingerSwipe
    | leftV => exact either _ (bound .leftV) nofun
    | rightV => exact either _ (bound .rightV) nofun

/-- **Every key event is routed by the table.** There is one entry for each event, with what becomes
of the event and at most one thing that it causes; that and no more is done, and no event ends up as
disabled. -/
theorem routed_by_table (core : Core) (event : KeyEvent) :
    core.route event = (do
      let heard ← event.hears
      core.follow (core.entry heard event)) ∧
    ∀ heard, (core.entry heard event).1 ≠ .disabled := by
  by_cases idle : event.IsIdle
  · refine ⟨?_, fun heard => ?_⟩
    · rw [route_idle core idle, hears_idle idle, pure_bind, entry_idle core true idle]
      rfl
    · rw [entry_idle core heard idle]
      exact gated_ne_disabled (core.swallows event.code)
  · obtain ⟨release, known⟩ := Classical.not_imp.mp idle
    obtain ⟨key, found⟩ := Option.ne_none_iff_exists'.mp known
    obtain rfl := eq_release (eq_of_beq release) found
    refine ⟨?_, fun heard => ?_⟩
    · rw [route_release]
      refine bind_congr fun heard => ?_
      rw [entry_release]
    · rw [entry_release]
      exact releaseEntry_ne_disabled core heard key

end Core

end TouchDispatch
