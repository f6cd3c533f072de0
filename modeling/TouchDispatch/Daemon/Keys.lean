/-
**Handling keys.**

* `Core.classify`: what a key comes to: nothing, a blocked key, or a gesture;
* `Core.handleKey`: swallows navigation keys that are turned off, performs slider moves at once and
  puts other gestures into the slot;
* `Core.route`: the questions that are asked about every key, in their order, and the effects that
  belong to the answers;
* `Core.applyChange`: brings the copies of settings that key handling keeps up to date.
-/

import TouchDispatch.Daemon.Perform

namespace TouchDispatch

/-- What a key comes to. -/
inductive Verdict where
  /-- The key means nothing here. -/
  | notHandled
  /-- The covered proximity sensor blocks the key. -/
  | blocked
  | gesture (gesture : Gesture)
deriving DecidableEq, Repr

/-- Where a key ends up. -/
inductive Route where
  /-- It was handled. -/
  | consumed
  /-- It is turned off or blocked. -/
  | disabled
  /-- It started the camera. -/
  | cameraLaunch
  /-- It woke the device. -/
  | wake
  /-- It is passed on. -/
  | passed
deriving DecidableEq, Repr

namespace Core

/-- Reads again whether the navigation keys are off, and switches the keypad to match. The copy
counts even when the keypad does not follow. -/
def refreshGate (core : Core) : Dialogue Core := do
  let keysDisabled := Settings.keysDisabled core.table
  let _ ← Dialogue.perform (.keypad (!keysDisabled))
  return { core with keysDisabled }

/-- The same, and shows the result. -/
def refreshKeys (core : Core) : Dialogue Core := do
  let core ← core.refreshGate
  return core.withStatus fun status => { status with keysDisabled := core.keysDisabled }

/-- Reads again whether a covered proximity sensor blocks keys. -/
def refreshProximityCheck (core : Core) : Core :=
  { core with proximityCheck := Settings.proximityCheck core.table }

/-- Brings the copies that a change touches up to date. -/
def applyChange (core : Core) (change : Settings.Change) : Dialogue Core := do
  let core ← if change.touches Settings.keysDisabledName then core.refreshKeys else pure core
  return if change.touches Settings.proximityCheckName then core.refreshProximityCheck else core

/-- Whether a key is a navigation key and those are turned off. -/
def swallows (core : Core) (code : ScanCode) : Bool :=
  core.keysDisabled && (Key.ofScanCode? code).any Key.isNavigation

/-- Whether the covered proximity sensor blocks a key. -/
def blocks (core : Core) (key : Key) : Bool :=
  key.isProximityChecked && core.proximityCheck && core.sensors.near

/-- What the binding of a channel comes to. -/
def bound (core : Core) (channel : Channel) : Verdict :=
  match Gesture.ofBinding? (Settings.binding core.table channel) with
  | some gesture => .gesture gesture
  | none => .notHandled

/-- What a key comes to when it is let go. The circle and the double tap are not gestures of their
own: they are asked about when the key is routed. The gestures that skip a title count only while
music is playing. -/
def judge (core : Core) (key : Key) : Dialogue Verdict := do
  match key with
  | .navigation _ => return .notHandled
  | .slider position => return .gesture (.slide position)
  | .doubleTap | .drawn .circle =>
    return if core.blocks key then .blocked else .notHandled
  | .drawn .v => return if core.blocks key then .blocked else core.bound .v
  | .drawn .twoFingerSwipe => return core.bound .twoFingerSwipe
  | .drawn .leftV => return if ← Dialogue.musicActive then core.bound .leftV else .notHandled
  | .drawn .rightV => return if ← Dialogue.musicActive then core.bound .rightV else .notHandled

/-- What a key event comes to. Only letting go of a key counts. -/
def classify (core : Core) (event : KeyEvent) : Dialogue Verdict := do
  if event.isRelease then
    match event.key? with
    | some key => core.judge key
    | none => return .notHandled
  else
    return .notHandled

/-- Puts a gesture into the slot. -/
def submit (core : Core) (gesture : Gesture) : Dialogue Core := do
  let now ← Dialogue.now
  let (superseded, slot) := core.slot.submit ⟨gesture, now⟩
  let core := { core with slot }
  return if superseded.isSome then core.withStatus Status.countSuperseded else core

/-- Handles a key event. The first part of the answer is whether that is all there is to it. -/
def handleKey (core : Core) (event : KeyEvent) : Dialogue (Bool × Core) := do
  if core.swallows event.code then
    return (true, core)
  else
    match ← core.classify event with
    | .notHandled => return (false, core)
    | .blocked => return (true, core.withStatus Status.countBlocked)
    | .gesture (.slide position) => return (true, ← core.dispatch (.slide position))
    | .gesture (.run action) => return (true, ← core.submit (.run action))

/-! ### Questions about a key event -/

/-- Whether the key is handled here at all. -/
def canHandle (event : KeyEvent) : Bool :=
  event.key?.any Key.isSupported

/-- Whether the event starts the camera. -/
def isCameraLaunch (core : Core) (event : KeyEvent) : Bool :=
  event.isRelease && event.code == (Key.drawn .circle).scanCode &&
    (Settings.binding core.table .circle).isEnabled

/-- Whether the event wakes the device. -/
def isWake (event : KeyEvent) : Bool :=
  event.isRelease && event.code == Key.doubleTap.scanCode

/-- Whether the event is of a key that is turned off or blocked. -/
def isDisabled (core : Core) (event : KeyEvent) : Bool :=
  event.isRelease && (core.swallows event.code || event.key?.any core.blocks)

/-- Asks the questions about a key event in their order, and does what the answer calls for. -/
def route (core : Core) (event : KeyEvent) : Dialogue (Route × Core) := do
  let (handled, core) ← core.handleKey event
  if handled then
    return (.consumed, core)
  else if core.isDisabled event then
    return (.disabled, core)
  else if core.isCameraLaunch event then
    let _ ← Dialogue.perform .launchCamera
    return (.cameraLaunch, core)
  else if isWake event then
    let _ ← Dialogue.perform .wakeUp
    return (.wake, core)
  else
    return (.passed, core)

end Core

end TouchDispatch
