/-
**A device on the test bench.**

The bench stands in for a device when recorded streams of events are replayed:

* `Bench`: its clock, what it answers, which calls it lets fail, and the requests made so far;
* `Bench.host`: how it answers.

Its clock moves only when told to, and while a media button is sent.
-/

import TouchDispatch.Device.Dialogue

namespace TouchDispatch

/-- The requests that a bench can be told to let fail. -/
inductive Fallible where
  | findCamera
  | torch
  | ringer
  | zen
  | mediaDown
  | mediaUp
  | pulse
  | wakeLock
  | wakeUp
  | launch
  | launchCamera
  | vibrate
  | keypad
deriving DecidableEq, Repr

namespace Fallible

/-- All of them. -/
def all : List Fallible :=
  [findCamera, torch, ringer, zen, mediaDown, mediaUp, pulse, wakeLock, wakeUp, launch,
    launchCamera, vibrate, keypad]

/-- The name in records. -/
def name : Fallible → String
  | findCamera => "find_camera"
  | torch => "torch"
  | ringer => "ringer"
  | zen => "zen"
  | mediaDown => "media_down"
  | mediaUp => "media_up"
  | pulse => "pulse"
  | wakeLock => "wake_lock"
  | wakeUp => "wake_up"
  | launch => "launch"
  | launchCamera => "launch_camera"
  | vibrate => "vibrate"
  | keypad => "keypad"

/-- What a call counts as. The switches of the sensors cannot fail. -/
def ofCall? : Call → Option Fallible
  | .torch .. => some torch
  | .ringer _ => some ringer
  | .zen _ => some zen
  | .media event => some (match event.stroke with | .down => mediaDown | .up => mediaUp)
  | .pulse => some pulse
  | .wakeLock .. => some wakeLock
  | .wakeUp => some wakeUp
  | .launch _ => some launch
  | .launchCamera => some launchCamera
  | .vibrate _ => some vibrate
  | .keypad _ => some keypad
  | .listenProximity _ | .listenTilt _ => none

end Fallible

/-- The state of a bench. -/
structure Bench where
  clock : Int := 10000
  /-- The rear camera, if there is one. -/
  camera : Option String := some "0"
  musicActive : Bool := true
  systemReady : Bool := true
  /-- How far the clock moves on while a media button is sent. -/
  mediaMillis : Int := 0
  /-- What fails. -/
  failing : List Fallible := []
  /-- What was asked of the device, in order; questions that change nothing are left out. -/
  log : List Request := []

namespace Bench

/-- Notes a request. -/
def note (bench : Bench) (request : Request) : Bench :=
  { bench with log := bench.log ++ [request] }

/-- Whether a call succeeds. -/
def allows (bench : Bench) (call : Call) : Bool :=
  match Fallible.ofCall? call with
  | some kind => !bench.failing.contains kind
  | none => true

/-- The clock after a call. -/
def clockAfter (bench : Bench) : Call → Int
  | .media _ => bench.clock + bench.mediaMillis
  | _ => bench.clock

/-- How the bench answers a request. -/
def answer : (request : Request) → Bench → request.Answer × Bench
  | .now, bench => (bench.clock, bench)
  | .musicActive, bench => (bench.musicActive, bench)
  | .systemReady, bench => (bench.systemReady, bench)
  | .findCamera, bench =>
    let result : CameraSearch :=
      if bench.failing.contains .findCamera then .failed
      else match bench.camera with
        | some camera => .found camera
        | none => .missing
    (result, bench.note .findCamera)
  | .perform call, bench =>
    (bench.allows call, { bench.note (.perform call) with clock := bench.clockAfter call })

/-- The bench as a host of dialogues. -/
def host : Host Bench :=
  ⟨answer⟩

end Bench

end TouchDispatch
