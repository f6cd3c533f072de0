/-
**What the daemon asks of the device.**

* `Call`: the things that the device is told to do; each may fail, and no failure stops anybody;
* `Request`: a call, or a question about the device or the time;
* `Request.Answer`: what comes back.
-/

import TouchDispatch.Gesture.Binding
import TouchDispatch.Gesture.Mode

namespace TouchDispatch

/-- The two events of a pressed media button. -/
inductive Stroke where
  | down
  | up
deriving DecidableEq, Repr

namespace Stroke

/-- Both of them. -/
def all : List Stroke :=
  [down, up]

/-- The name in records. -/
def name : Stroke → String
  | down => "down"
  | up => "up"

end Stroke

/-- A synthetic event of a media button. Times are monotonic milliseconds. -/
structure MediaEvent where
  button : MediaButton
  stroke : Stroke
  /-- When the button went down. -/
  downAt : Int
  /-- When this event happened. -/
  eventAt : Int
deriving DecidableEq, Repr

/-- Something that the device is told to do. -/
inductive Call where
  | torch (camera : String) (enabled : Bool)
  | ringer (mode : RingerMode)
  | zen (mode : ZenMode)
  | media (event : MediaEvent)
  | pulse
  /-- A lock that keeps the device awake and lapses after some milliseconds. -/
  | wakeLock (tag : String) (millis : Nat)
  | wakeUp
  | launch (component : String)
  | launchCamera
  | vibrate (effect : Effect)
  | keypad (enabled : Bool)
  | listenProximity (on : Bool)
  /-- Starts the tilt sensor with a reporting latency in milliseconds, or stops it. -/
  | listenTilt (latency : Option Nat)
deriving DecidableEq, Repr

/-- A request to the device. -/
inductive Request where
  /-- What the monotonic clock shows. -/
  | now
  /-- Whether music is playing. -/
  | musicActive
  /-- Whether the system has come up. -/
  | systemReady
  /-- The id of the rear camera with a flash. -/
  | findCamera
  /-- Something to do. -/
  | perform (call : Call)
deriving DecidableEq, Repr

/-- The outcome of looking for the rear camera. -/
inductive CameraSearch where
  | failed
  | missing
  | found (camera : String)
deriving DecidableEq, Repr

/-- The camera of a search that found one. -/
def CameraSearch.camera? : CameraSearch → Option String
  | found camera => some camera
  | _ => none

/-- What a request is answered with; a call is answered with whether it succeeded. -/
abbrev Request.Answer : Request → Type
  | now => Int
  | musicActive => Bool
  | systemReady => Bool
  | findCamera => CameraSearch
  | perform _ => Bool

end TouchDispatch
