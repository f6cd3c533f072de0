/-
**The state of the daemon.**

* `Lamp`: the torch as the daemon knows it;
* `Core`: the settings, the status, and what every part of the daemon remembers. Some parts keep
  a copy of a setting, which is brought up to date when a change is announced.
-/

import TouchDispatch.Daemon.Status
import TouchDispatch.Device.Hold
import TouchDispatch.Gesture.Slot
import TouchDispatch.Panel.Switches
import TouchDispatch.Sensor.Doze
import TouchDispatch.Settings.Store

namespace TouchDispatch

/-- The torch as the daemon knows it. -/
structure Lamp where
  /-- The id of the rear camera, once it has been found. -/
  camera : Option String := none
  on : Bool := false
  /-- When a gesture switched the torch last; the earliest instant if none ever did. -/
  armedAt : Int := Time.earliest
deriving DecidableEq, Repr

/-- The tag of the lock behind the hold of the daemon. -/
def holdTag : String := "GestureWakeLock"

/-- How long the hold of the daemon stays in force. -/
def holdMillis : Nat := 2000

/-- The state of the daemon. -/
structure Core where
  store : Settings.Store
  disk : Disk
  status : Status := {}
  lamp : Lamp := {}
  hold : Hold := { tag := holdTag, millis := holdMillis }
  slot : Slot := {}
  /-- A copy of the setting: whether the navigation keys are swallowed. -/
  keysDisabled : Bool := false
  /-- A copy of the setting: whether a covered proximity sensor blocks keys. -/
  proximityCheck : Bool
  /-- The sensors, with copies of the settings that they depend on. -/
  sensors : DozeSensors
  screenOn : Bool := true
  /-- The switches of the panel, if it has any. -/
  switches : Option Switches := none

namespace Core

/-- The table of settings. -/
def table (core : Core) : Settings.Table :=
  core.store.table

/-- The state with a new status. -/
def withStatus (core : Core) (change : Status → Status) : Core :=
  { core with status := change core.status }

end Core

end TouchDispatch
