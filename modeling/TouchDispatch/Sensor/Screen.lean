/-
**Whether the screen is on.**

* `ScreenProbe.isOn`: what a node of the display says;
* `ScreenTracker.update`: the state of the screen after one more look. It goes off only after two
  looks in a row that say so, and on at once;
* `ScreenTracker.firstChange?`: when a series of looks has something to tell.
-/

import TouchDispatch.Disk.Value

namespace TouchDispatch

/-- The kinds of node that show whether the screen is on. -/
inductive ScreenProbe where
  /-- The blanking of the frame buffer: zero is on. -/
  | blanking
  /-- The brightness of the backlight: above zero is on. -/
  | brightness
  /-- The power of the backlight: zero is on. -/
  | power
deriving DecidableEq, Repr

namespace ScreenProbe

/-- What a number in the node means. -/
def isOnAt : ScreenProbe → Int → Bool
  | blanking, value => value == 0
  | brightness, value => decide (0 < value)
  | power, value => value == 0

/-- Whether the screen is on. A node without a number counts as on. -/
def isOn (probe : ScreenProbe) (value : Option Int) : Bool :=
  match value with
  | some value => probe.isOnAt value
  | none => true

end ScreenProbe

/-- What is remembered of the looks at the screen. -/
structure ScreenTracker where
  on : Bool := true
  /-- How many looks in a row said off, up to 255. -/
  offStreak : Nat := 0
deriving DecidableEq, Repr

namespace ScreenTracker

/-- The state of the screen after one more look, if it changed. -/
def update (tracker : ScreenTracker) (isOn : Bool) : Option Bool × ScreenTracker :=
  let offStreak := if isOn then 0 else min 255 (tracker.offStreak + 1)
  let on := isOn || decide (offStreak < 2)
  if on = tracker.on then (none, { tracker with offStreak })
  else (some on, ⟨on, offStreak⟩)

/-- The first change that a series of looks shows. -/
def firstChange? (tracker : ScreenTracker) : List Bool → Option Bool
  | [] => none
  | isOn :: rest =>
    match tracker.update isOn with
    | (some on, _) => some on
    | (none, tracker) => tracker.firstChange? rest

end ScreenTracker

end TouchDispatch
