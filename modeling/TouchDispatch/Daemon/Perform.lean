/-
**Performing gestures.**

* `Core.dispatch`: the side effect of a gesture. Whatever fails on the way is passed over;
* `Core.toggleTorch`: at most once in the duration of the hold;
* `Core.sendMedia`: a button goes down and up, the second strictly later than the first;
* `Core.slide`: what the slider is mapped to;
* `Core.torchReported`: somebody else switched the torch.
-/

import TouchDispatch.Daemon.Core

namespace TouchDispatch.Core

/-- A short vibration, if gestures are to be felt. -/
def feedback (core : Core) : Dialogue Unit := do
  if Settings.feedback core.table then
    let _ ← Dialogue.perform (.vibrate .click)

/-- The id of the rear camera. It is looked for until it is found once. -/
def rearCamera (core : Core) : Dialogue (Option String × Core) := do
  match core.lamp.camera with
  | some camera => return (some camera, core)
  | none =>
    let search ← Dialogue.findCamera
    let camera := search.camera?
    return (camera, { core with lamp := { core.lamp with camera } })

/-- Notes whether the torch is on. -/
def setTorch (core : Core) (on : Bool) : Core :=
  { core with
    lamp := { core.lamp with on }
    status := { core.status with torchOn := on } }

/-- Switches the torch, unless a gesture did so within the duration of the hold. -/
def toggleTorch (core : Core) : Dialogue Core := do
  let (camera, core) ← core.rearCamera
  match camera with
  | none => return core
  | some camera =>
    let now ← Dialogue.now
    if Time.elapsed core.lamp.armedAt now < core.hold.millis then
      return core
    else
      let hold ← core.hold.acquire
      core.feedback
      let core := { core with hold, lamp := { core.lamp with armedAt := now } }
      let switched ← Dialogue.perform (.torch camera (!core.lamp.on))
      return if switched then core.setTorch (!core.lamp.on) else core

/-- Presses a media button, once the system has come up. -/
def sendMedia (core : Core) (button : MediaButton) : Dialogue Core := do
  let hold ← core.hold.acquire
  let core := { core with hold }
  if ← Dialogue.systemReady then
    let downAt ← Dialogue.now
    let _ ← Dialogue.perform (.media ⟨button, .down, downAt, downAt⟩)
    let upAt ← Dialogue.now
    let _ ← Dialogue.perform (.media ⟨button, .up, downAt, max upAt (downAt + 1)⟩)
    return core
  else
    return core

/-- Switches to the mode that a slider position is mapped to. -/
def slide (core : Core) (position : Position) : Dialogue Unit := do
  let id := (Settings.sliderMap core.table).modeAt position
  match Mode.ofId? id with
  | none => return ()
  | some mode =>
    let _ ← Dialogue.perform (.zen mode.zen)
    if let some ringer := mode.ringer then
      let _ ← Dialogue.perform (.ringer ringer)
    let _ ← Dialogue.perform (.vibrate (Mode.effect id))

/-- Performs an action. The torch is felt only when it is switched, all others at once. -/
def act (core : Core) : Action → Dialogue Core
  | .torch => core.toggleTorch
  | .media button => do
    core.feedback
    core.sendMedia button
  | .camera => do
    core.feedback
    let _ ← Dialogue.perform .launchCamera
    return core
  | .wake => do
    core.feedback
    let _ ← Dialogue.perform .wakeUp
    return core
  | .launch component => do
    core.feedback
    let _ ← Dialogue.perform (.launch component)
    return core

/-- Performs a gesture and records it. -/
def dispatch (core : Core) (gesture : Gesture) : Dialogue Core := do
  let core ← match gesture with
    | .run action => core.act action
    | .slide position => do
      core.slide position
      pure core
  let now ← Dialogue.now
  return core.withStatus (·.recordGesture gesture now)

/-- Takes note of the state of a torch. Only the torch of the rear camera counts. -/
def torchReported (core : Core) (camera : String) (on : Bool) : Core :=
  if core.lamp.camera = some camera then core.setTorch on else core

/-- Performs what waits in the slot. The first part of the answer is how much that was. -/
def drain (core : Core) : Dialogue (Nat × Core) := do
  match core.slot.tryTake with
  | (none, _) => return (0, core)
  | (some order, slot) =>
    let core ← { core with slot }.dispatch order.gesture
    return (1, core)

/-- Performs gestures one after another, each through the slot. -/
def performEach (core : Core) : List Gesture → Dialogue Core
  | [] => return core
  | gesture :: rest => do
    let now ← Dialogue.now
    let (_, slot) := core.slot.submit ⟨gesture, now⟩
    let (_, core) ← { core with slot }.drain
    core.performEach rest

/-- The work of the performing thread: what waits already, then each gesture as it comes, until
the slot is closed. Nothing comes through a slot that is closed already. -/
def serve (core : Core) (gestures : List Gesture) : Dialogue Core := do
  let (_, core) ← core.drain
  if core.slot.closed then
    return core
  else
    let core ← core.performEach gestures
    return { core with slot := core.slot.close }

end TouchDispatch.Core
