/-
**The sensors that wake the screen while it is off.**

A proximity sensor that goes from near to far quickly saw a waving hand; one that does so slowly
left a pocket. The tilt sensor is heard at most once in a while. Both are listened to only while
the display is off:

* `DozeSensors.displayOff`, `DozeSensors.displayOn`: open and close the two windows;
* `DozeSensors.proximity`, `DozeSensors.tilt`: what a sample does, and whether it wakes the screen;
* `DozeSensors.listening`: which sensors are to report.
-/

import TouchDispatch.Settings.Packed

namespace TouchDispatch

/-- A near-to-far change within less than this is a waving hand. -/
def waveMillis : Int := 1000

/-- A near-to-far change after more than this is a phone leaving a pocket. -/
def pocketMillis : Int := 5000

/-- The least time between two accepted samples of the tilt sensor. -/
def tiltMillis : Int := 2500

/-- How late the tilt sensor may report. -/
def tiltLatency : Nat := 100

/-- Which sensors the device has. -/
structure Presence where
  proximity : Bool := false
  tilt : Bool := false
deriving DecidableEq, Repr

/-- Which sensors are to report. -/
structure Listening where
  proximity : Bool := false
  /-- How late the tilt sensor may report, in milliseconds, if it is to. -/
  tilt : Option Nat := none
deriving DecidableEq, Repr

/-- A sample of the proximity sensor. -/
structure ProximitySample where
  distance : Float32
  maxRange : Float32

/-- Whether something covers the sensor. A distance that is not a number is far. -/
def ProximitySample.isNear (sample : ProximitySample) : Bool :=
  decide (sample.distance < sample.maxRange)

/-- What is known of the proximity sensor since the display went off. -/
structure ProximityWindow where
  wasNear : Bool
  lastAt : Int
deriving DecidableEq, Repr

/-- The sensors and what is known of them. -/
structure DozeSensors where
  presence : Presence
  features : DozeFeatures
  /-- Whether a covered sensor is to block keys, for which it has to be listened to. -/
  proximityCheck : Bool
  /-- Open while the proximity sensor is listened to. -/
  window : Option ProximityWindow := none
  /-- When the tilt sensor was accepted last, while it is listened to. -/
  tiltAt : Option Int := none
  /-- What the proximity sensor read last. -/
  near : Bool := false
deriving DecidableEq, Repr

namespace DozeSensors

/-- Takes over new settings. They decide about the windows when the display goes off next, and
about samples at once. -/
def configure (sensors : DozeSensors) (features : DozeFeatures) (proximityCheck : Bool) :
    DozeSensors :=
  { sensors with features, proximityCheck }

/-- Whether the proximity sensor is of use while the display is off. -/
def wantsProximity (sensors : DozeSensors) : Bool :=
  sensors.presence.proximity && (sensors.features.usesProximity || sensors.proximityCheck)

/-- Whether the tilt sensor is of use while the display is off. -/
def wantsTilt (sensors : DozeSensors) : Bool :=
  sensors.presence.tilt && sensors.features.tilt

/-- Which sensors are to report. -/
def listening (sensors : DozeSensors) : Listening :=
  ⟨sensors.window.isSome, sensors.tiltAt.map fun _ => tiltLatency⟩

/-- Opens a window for each sensor that is of use. -/
def displayOff (sensors : DozeSensors) (now : Int) : DozeSensors :=
  { sensors with
    window := if sensors.wantsProximity then some ⟨false, now⟩ else none
    tiltAt := if sensors.wantsTilt then some now else none }

/-- Closes the windows. Nothing covers the sensor any more. -/
def displayOn (sensors : DozeSensors) : DozeSensors :=
  { sensors with window := none, tiltAt := none, near := false }

/-- Whether a sample wakes the screen: it is far after a near one, and the time between them fits
a movement that is looked for. -/
def wakes (features : DozeFeatures) (window : ProximityWindow) (near : Bool) (now : Int) : Bool :=
  features.usesProximity && window.wasNear && !near &&
    ((features.wave && decide (now - window.lastAt < waveMillis)) ||
      (features.pocket && decide (pocketMillis < now - window.lastAt)))

/-- Takes a sample of the proximity sensor. The first part of the answer is whether it wakes the
screen. Without a window the sample counts for nothing. -/
def proximity (sensors : DozeSensors) (sample : ProximitySample) (now : Int) :
    Bool × DozeSensors :=
  match sensors.window with
  | none => (false, sensors)
  | some window =>
    (wakes sensors.features window sample.isNear now,
      { sensors with window := some ⟨sample.isNear, now⟩, near := sample.isNear })

/-- Takes a sample of the tilt sensor. The first part of the answer is whether it wakes the
screen. A sample soon after the one accepted last counts for nothing. -/
def tilt (sensors : DozeSensors) (triggered : Bool) (now : Int) : Bool × DozeSensors :=
  match sensors.tiltAt with
  | none => (false, sensors)
  | some last =>
    if now - last < tiltMillis then (false, sensors)
    else (triggered, { sensors with tiltAt := some now })

end DozeSensors

end TouchDispatch
