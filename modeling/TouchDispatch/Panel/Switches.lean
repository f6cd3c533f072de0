/-
**The switches of the touch panel.**

The panel recognises a gesture only while its switch is on. `Switches.sync` sets each switch to
whether some channel behind it does anything, and writes only the switches that have to change.
-/

import TouchDispatch.Disk.Value
import TouchDispatch.Settings.Table

namespace TouchDispatch

/-- The nodes of the three switches, and the values that were written to them last. -/
structure Switches where
  camera : Path
  flashlight : Path
  music : Path
  cache : NodeCache := []

namespace Switches

/-- Whether a channel does anything. -/
def isOn (table : Settings.Table) (channel : Channel) : Bool :=
  (Settings.binding table channel).isEnabled

/-- Which switches are to be on: the one for the circle, the one for the V, and the one that the
other three gestures share. -/
def targets (switches : Switches) (table : Settings.Table) : List (Path × Bool) :=
  [(switches.camera, isOn table .circle),
    (switches.flashlight, isOn table .v),
    (switches.music, isOn table .twoFingerSwipe || isOn table .leftV || isOn table .rightV)]

/-- The value of a switch. -/
def value (on : Bool) : String :=
  if on then "1" else "0"

/-- Sets the switches one after another. The answer is how many were written, the cache and the
tree. A switch that cannot be written is left for the next time. -/
def setAll (cache : NodeCache) (disk : Disk) : List (Path × Bool) → Nat × NodeCache × Disk
  | [] => (0, cache, disk)
  | (path, on) :: rest =>
    let outcome := cache.write disk path (value on)
    let (count, cache, disk) := setAll outcome.cache outcome.disk rest
    match outcome.result with
    | .ok true => (count + 1, cache, disk)
    | _ => (count, cache, disk)

/-- Brings the switches in line with the settings. The answer is how many were written. -/
def sync (switches : Switches) (disk : Disk) (table : Settings.Table) : Nat × Switches × Disk :=
  let (count, cache, disk) := setAll switches.cache disk (switches.targets table)
  (count, { switches with cache }, disk)

end Switches

end TouchDispatch
