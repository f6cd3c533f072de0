/-
**Handling what the sensors, the display and the settings report.**

* `Event`: everything that is reported, in one stream;
* `Core.handle`: what one event does, and whether there is to be a next one;
* `Core.handleUnread`: what the store has told a listener, handed on as events;
* `Core.run`: a whole stream. At its end the display counts as on, so that nothing is listened to
  any more.
-/

import TouchDispatch.Daemon.Keys

namespace TouchDispatch

/-- Something that is reported to the daemon. -/
inductive Event where
  | display (on : Bool)
  | proximity (sample : ProximitySample)
  | tilt (triggered : Bool)
  /-- A torch was switched. -/
  | torchMode (camera : String) (on : Bool)
  /-- A torch is out of reach. -/
  | torchGone (camera : String)
  | settingsChanged (change : Settings.Change)
  | shutdown

namespace Core

/-- Starts and stops the sensors. -/
def listen (core : Core) (listening : Listening) : Dialogue Core := do
  let _ ← Dialogue.perform (.listenProximity listening.proximity)
  let _ ← Dialogue.perform (.listenTilt listening.tilt)
  return core.withStatus fun status =>
    { status with sensors := { status.sensors with
        proximityListening := listening.proximity
        tiltListening := listening.tilt.isSome } }

/-- The sensors with their windows opened or closed for the display. -/
def sensorsFor (core : Core) (on : Bool) : Dialogue DozeSensors := do
  if on then
    return core.sensors.displayOn
  else
    let now ← Dialogue.now
    return core.sensors.displayOff now

/-- Opens or closes the windows of the sensors when the display changes. -/
def displayChanged (core : Core) (on : Bool) : Dialogue Core := do
  if on = core.screenOn then
    return core
  else
    let sensors ← core.sensorsFor on
    let core ← { core with screenOn := on, sensors }.listen sensors.listening
    return core.withStatus fun status =>
      { status with
        screenOn := on
        sensors := { status.sensors with
          proximityNear := !on && status.sensors.proximityNear } }

/-- Wakes the screen. Only a pulse that was sent is counted. -/
def pulse (core : Core) : Dialogue Core := do
  if ← Dialogue.perform .pulse then
    return core.withStatus Status.countPulse
  else
    return core

/-- Takes a sample of the proximity sensor. -/
def proximityReported (core : Core) (sample : ProximitySample) : Dialogue Core := do
  let now ← Dialogue.now
  let (wakes, sensors) := core.sensors.proximity sample now
  let core := { core with sensors }
  let core := if sensors.listening.proximity then
      core.withStatus fun status =>
        { status with sensors := { status.sensors with proximityNear := sample.isNear } }
    else core
  if wakes then core.pulse else return core

/-- Takes a sample of the tilt sensor. -/
def tiltReported (core : Core) (triggered : Bool) : Dialogue Core := do
  let now ← Dialogue.now
  let (wakes, sensors) := core.sensors.tilt triggered now
  let core := { core with sensors }
  if wakes then core.pulse else return core

/-- Brings the switches of the panel in line with the settings. -/
def syncSwitches (core : Core) : Core :=
  match core.switches with
  | none => core
  | some switches =>
    let (_, switches, disk) := switches.sync core.disk core.table
    { core with disk, switches := some switches }

/-- Brings everything that a change touches up to date. The settings are read from the store, so
a change that is announced late does no harm. -/
def settingsChanged (core : Core) (change : Settings.Change) : Dialogue Core := do
  let core ← core.applyChange change
  let core :=
    if change.touches Settings.dozeName || change.touches Settings.proximityCheckName then
      { core with sensors :=
          core.sensors.configure (Settings.doze core.table) (Settings.proximityCheck core.table) }
    else core
  let core := if change.touchesBindings then core.syncSwitches else core
  return core.withStatus fun status =>
    { status with settingsRevision := change.revision, lastSettingsError := none }

/-- What an event does. The first part of the answer is whether there is to be a next one. -/
def handle (core : Core) : Event → Dialogue (Bool × Core)
  | .display on => do return (true, ← core.displayChanged on)
  | .proximity sample => do return (true, ← core.proximityReported sample)
  | .tilt triggered => do return (true, ← core.tiltReported triggered)
  | .torchMode camera on => return (true, core.torchReported camera on)
  | .torchGone camera => return (true, core.torchReported camera false)
  | .settingsChanged change => do return (true, ← core.settingsChanged change)
  | .shutdown => return (false, core)

/-- Handles events up to a shutdown or the end of the stream. -/
def handleAll (core : Core) : List Event → Dialogue Core
  | [] => return core
  | event :: rest => do
    let (more, core) ← core.handle event
    if more then core.handleAll rest else return core

/-- Handles changes of the settings, one after another. -/
def settingsChangedAll (core : Core) : List Settings.Change → Dialogue Core
  | [] => return core
  | change :: rest => do
    let core ← core.settingsChanged change
    core.settingsChangedAll rest

/-- Handles the changes that a listener of the store has not read yet, and answers them. -/
def handleUnread (core : Core) (listener : Nat) : Dialogue (List Settings.Change × Core) := do
  let (changes, store) := core.store.receive listener
  let changes := changes.getD []
  return (changes, ← { core with store }.settingsChangedAll changes)

/-- Handles a stream of events and then lets the sensors rest. -/
def run (core : Core) (events : List Event) : Dialogue Core := do
  let core ← core.handleAll events
  core.displayChanged true

/-! ### The beginning -/

/-- The daemon over a store, with all copies of settings taken, the keypad and the switches of the
panel set, and the display taken to be on. -/
def start (disk : Disk) (store : Settings.Store) (presence : Presence)
    (switches : Option Switches) : Dialogue Core := do
  let sensors : DozeSensors :=
    { presence
      features := Settings.doze store.table
      proximityCheck := Settings.proximityCheck store.table }
  let core : Core :=
    { store, disk, sensors, switches, proximityCheck := Settings.proximityCheck store.table }
  let core ← core.refreshKeys
  return core.syncSwitches.withStatus fun status =>
    { status with
      settingsRevision := store.revision
      sensors := { status.sensors with
        proximityPresent := presence.proximity
        tiltPresent := presence.tilt } }

end Core

end TouchDispatch
