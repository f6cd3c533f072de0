/-
**A hold that keeps the device awake for a while.**

* `Hold.acquire`: arms the hold for its full duration, from now on;
* `Hold.isHeld`, `Hold.until?`: whether it is in force, and until when it was armed.

A hold is never given up early: the lock of the device behind it lapses by itself.
-/

import TouchDispatch.Device.Dialogue
import TouchDispatch.Time

namespace TouchDispatch

/-- A hold. -/
structure Hold where
  tag : String
  /-- How long it stays in force. -/
  millis : Nat
  /-- When it ends; the earliest instant if it was never armed. -/
  endsAt : Int := Time.earliest
deriving DecidableEq, Repr

namespace Hold

/-- Arms the hold. Arming it again starts its duration anew. -/
def acquire (hold : Hold) : Dialogue Hold := do
  let now ← Dialogue.now
  let _ ← Dialogue.perform (.wakeLock hold.tag hold.millis)
  return { hold with endsAt := now + hold.millis }

/-- Whether the hold is in force. -/
def isHeld (hold : Hold) (now : Int) : Bool :=
  decide (now < hold.endsAt)

/-- Until when the hold was armed, if it ever was. -/
def until? (hold : Hold) : Option Int :=
  if hold.endsAt = Time.earliest then none else some hold.endsAt

end Hold

end TouchDispatch
