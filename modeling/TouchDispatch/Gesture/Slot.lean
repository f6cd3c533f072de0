/-
**The slot in which a gesture waits to be performed.**

A newer gesture takes the place of the one that waits; one that was taken out is out of reach:

* `Slot.submit`: puts a gesture in, and gives back the one it supersedes;
* `Slot.tryTake`, `Slot.take`: take out what waits;
* `Slot.close`: what waits can still be taken out, after that there is nothing more to wait for.
-/

import TouchDispatch.Gesture.Binding

namespace TouchDispatch

/-- A gesture that waits, and when it was asked for. -/
structure Order where
  gesture : Gesture
  issuedAt : Int
deriving DecidableEq, Repr

/-- A slot for one gesture. -/
structure Slot where
  pending : Option Order := none
  closed : Bool := false
deriving DecidableEq, Repr

/-- What a taker who is ready to wait gets. -/
inductive Taken where
  | order (order : Order)
  /-- Nothing waits, and nothing more will come. -/
  | closed
  /-- Nothing waits yet. -/
  | wait
deriving DecidableEq, Repr

namespace Slot

/-- Puts a gesture in. The first part of the answer is the one it supersedes. -/
def submit (slot : Slot) (order : Order) : Option Order × Slot :=
  (slot.pending, { slot with pending := some order })

/-- Takes out what waits, without waiting for anything. -/
def tryTake (slot : Slot) : Option Order × Slot :=
  (slot.pending, { slot with pending := none })

/-- Takes out what waits; otherwise says whether there is anything to wait for. -/
def take (slot : Slot) : Taken × Slot :=
  match slot.pending with
  | some order => (.order order, { slot with pending := none })
  | none => (if slot.closed then .closed else .wait, slot)

/-- Says that nothing more will come. -/
def close (slot : Slot) : Slot :=
  { slot with closed := true }

/-- Whether a gesture waits. -/
def isPending (slot : Slot) : Bool :=
  slot.pending.isSome

end Slot

end TouchDispatch
