/-
**What the daemon shows of itself.**

`Status` is what every part of the daemon reports to and what is shown on request.
-/

import TouchDispatch.Gesture.Binding

namespace TouchDispatch

/-- What is shown of the sensors. -/
structure SensorStatus where
  proximityPresent : Bool := false
  tiltPresent : Bool := false
  proximityListening : Bool := false
  tiltListening : Bool := false
  proximityNear : Bool := false
deriving DecidableEq, Repr

/-- What has been counted. -/
structure Counters where
  /-- Gestures that were performed. -/
  dispatched : Nat := 0
  /-- Gestures that a newer one took the place of. -/
  superseded : Nat := 0
  /-- Keys that the covered proximity sensor blocked. -/
  blocked : Nat := 0
  /-- Times that the screen was woken. -/
  dozePulses : Nat := 0
deriving DecidableEq, Repr

/-- What is shown of the daemon. -/
structure Status where
  settingsRevision : Nat := 0
  lastSettingsError : Option String := none
  screenOn : Bool := true
  torchOn : Bool := false
  keysDisabled : Bool := false
  lastGesture : Option String := none
  lastGestureAt : Option Int := none
  sensors : SensorStatus := {}
  counters : Counters := {}
deriving DecidableEq, Repr

namespace Status

/-- Notes that a gesture was performed. -/
def recordGesture (status : Status) (gesture : Gesture) (now : Int) : Status :=
  { status with
    lastGesture := some gesture.label
    lastGestureAt := some now
    counters := { status.counters with dispatched := status.counters.dispatched + 1 } }

/-- Notes that a gesture took the place of another. -/
def countSuperseded (status : Status) : Status :=
  { status with counters := { status.counters with superseded := status.counters.superseded + 1 } }

/-- Notes that a key was blocked. -/
def countBlocked (status : Status) : Status :=
  { status with counters := { status.counters with blocked := status.counters.blocked + 1 } }

/-- Notes that the screen was woken. -/
def countPulse (status : Status) : Status :=
  { status with counters := { status.counters with dozePulses := status.counters.dozePulses + 1 } }

/-- Shows a complaint about the settings, if there is one. -/
def complain (status : Status) : Option String → Status
  | some complaint => { status with lastSettingsError := some complaint }
  | none => status

end Status

end TouchDispatch
