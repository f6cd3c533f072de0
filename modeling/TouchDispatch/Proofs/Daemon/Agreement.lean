/-
**All that knows of the display and the sensors agrees.**

The windows of the sensors, the reading that blocks keys, what is shown, and what the device was
told to listen to: four places that different functions keep.

* `toldToListen`: which sensors the device was told to listen to last;
* `Agreed`: the four places agree, nothing is listened to that is not there, and nothing at all
  while the display is on;
* `agreed_handle`, `agreed_step`: every event and every step keep it;
* `senses_agree`: **from the start they agree after every step, and at the end of every stream of
  events the sensors rest.**
-/

import TouchDispatch.Proofs.Daemon.Frame

namespace TouchDispatch

open Dialogue

/-- Which sensors the device was told to listen to last; to none at first. -/
def toldToListen (exchanges : List Exchange) : Listening :=
  ⟨(asked Request.proximity? exchanges).getLast?.getD false,
    (asked Request.tilt? exchanges).getLast?.getD none⟩

theorem toldToListen_listen (before : List Exchange) (listening : Listening) (first second : Bool) :
    toldToListen (before ++ [⟨.perform (.listenProximity listening.proximity), first⟩,
      ⟨.perform (.listenTilt listening.tilt), second⟩]) = listening := by
  unfold toldToListen
  rw [asked_append, asked_append]
  have proximity : asked Request.proximity?
      [⟨.perform (.listenProximity listening.proximity), first⟩,
        ⟨.perform (.listenTilt listening.tilt), second⟩] = [listening.proximity] := rfl
  have tilt : asked Request.tilt?
      [⟨.perform (.listenProximity listening.proximity), first⟩,
        ⟨.perform (.listenTilt listening.tilt), second⟩] = [listening.tilt] := rfl
  rw [proximity, tilt, List.getLast?_concat, List.getLast?_concat]
  rfl

theorem toldToListen_silent {before exchanges : List Exchange}
    (silent : ∀ exchange ∈ exchanges, exchange.request.part ≠ .sensors) :
    toldToListen (before ++ exchanges) = toldToListen before := by
  unfold toldToListen
  rw [asked_append, asked_append,
    asked_eq_nil fun exchange member => Request.proximity?_eq_none (silent exchange member),
    asked_eq_nil fun exchange member => Request.tilt?_eq_none (silent exchange member),
    List.append_nil, List.append_nil]

/-- The four places agree about the display and the sensors. -/
structure Agreed (presence : Presence) (exchanges : List Exchange) (core : Core) : Prop where
  device : core.sensors.presence = presence
  /-- What is shown of the display is right. -/
  screen : core.status.screenOn = core.screenOn
  /-- The device was told to listen to what has a window open. -/
  told : toldToListen exchanges = core.sensors.listening
  shownProximity : core.status.sensors.proximityListening = core.sensors.listening.proximity
  shownTilt : core.status.sensors.tiltListening = core.sensors.listening.tilt.isSome
  proximityPresent : core.sensors.listening.proximity = true → presence.proximity = true
  tiltPresent : core.sensors.listening.tilt.isSome = true → presence.tilt = true
  /-- What is shown of the proximity sensor is its reading. -/
  shownNear : core.status.sensors.proximityNear = core.sensors.near
  /-- The window that is open knows the same reading. -/
  openNear : ∀ window, core.sensors.window = some window → window.wasNear = core.sensors.near
  /-- Without a window the reading is far. -/
  closedFar : core.sensors.window = none → core.sensors.near = false
  /-- While the display is on no window is open. -/
  lit : core.screenOn = true → core.sensors.window = none ∧ core.sensors.tiltAt = none

/-- Nothing is listened to, nothing covers the proximity sensor, and the display counts as on. -/
structure AtRest (exchanges : List Exchange) (core : Core) : Prop where
  told : toldToListen exchanges = {}
  windows : core.sensors.window = none ∧ core.sensors.tiltAt = none
  near : core.sensors.near = false
  screen : core.screenOn = true
  shownListening : core.status.sensors.proximityListening = false ∧
    core.status.sensors.tiltListening = false
  shownNear : core.status.sensors.proximityNear = false
  shownScreen : core.status.screenOn = true

namespace Agreed

variable {presence : Presence} {earlier exchanges : List Exchange} {core next : Core}

/-- Whatever leaves the display and the sensors alone keeps the agreement. -/
theorem kept (agreed : Agreed presence earlier core) (senses : next.senses = core.senses)
    (silent : ∀ exchange ∈ exchanges, exchange.request.part ≠ .sensors) :
    Agreed presence (earlier ++ exchanges) next := by
  simp only [Core.senses, Senses.mk.injEq] at senses
  obtain ⟨here, window, tiltAt, near, screenOn, shownScreen, shown⟩ := senses
  have listening : next.sensors.listening = core.sensors.listening := by
    unfold DozeSensors.listening
    rw [window, tiltAt]
  constructor
  case device => rw [here, agreed.device]
  case screen => rw [shownScreen, screenOn, agreed.screen]
  case told => rw [toldToListen_silent silent, listening, agreed.told]
  case shownProximity => rw [shown, listening, agreed.shownProximity]
  case shownTilt => rw [shown, listening, agreed.shownTilt]
  case proximityPresent =>
    rw [listening]
    exact agreed.proximityPresent
  case tiltPresent =>
    rw [listening]
    exact agreed.tiltPresent
  case shownNear => rw [shown, near, agreed.shownNear]
  case openNear =>
    rw [window, near]
    exact agreed.openNear
  case closedFar =>
    rw [window, near]
    exact agreed.closedFar
  case lit =>
    rw [screenOn, window, tiltAt]
    exact agreed.lit

/-- When the display goes off the reading is far already, as a new window takes it to be. -/
theorem displayOff (agreed : Agreed presence earlier core) (screen : core.screenOn = true)
    (now : Int) (first second : Bool) :
    Agreed presence (earlier ++ [⟨.now, now⟩,
      ⟨.perform (.listenProximity (core.sensors.displayOff now).listening.proximity), first⟩,
      ⟨.perform (.listenTilt (core.sensors.displayOff now).listening.tilt), second⟩])
      (core.screened false (core.sensors.displayOff now)) := by
  -- The new window starts far whatever the reading is; they agree as the last window was closed.
  have far : core.sensors.near = false := agreed.closedFar (agreed.lit screen).1
  have here : core.sensors.presence = presence := agreed.device
  constructor
  case device => exact here
  case screen => rfl
  case told =>
    rw [List.append_cons]
    exact toldToListen_listen _ _ first second
  case shownProximity => rfl
  case shownTilt => rfl
  case proximityPresent =>
    show (if core.sensors.wantsProximity = true then
      some (ProximityWindow.mk false now) else none).isSome = true → _
    unfold DozeSensors.wantsProximity
    rw [here]
    cases presence.proximity with
    | false => exact nofun
    | true => exact fun _ => rfl
  case tiltPresent =>
    show ((if core.sensors.wantsTilt = true then some now else none).map _).isSome = true → _
    unfold DozeSensors.wantsTilt
    rw [here]
    cases presence.tilt with
    | false => exact nofun
    | true => exact fun _ => rfl
  case shownNear => exact agreed.shownNear
  case openNear =>
    intro window opened
    show window.wasNear = core.sensors.near
    rw [far]
    change (if core.sensors.wantsProximity = true then
      some (ProximityWindow.mk false now) else none) = some window at opened
    split at opened
    · obtain rfl := Option.some.inj opened
      rfl
    · cases opened
  case closedFar => exact fun _ => far
  case lit => exact nofun

/-- When the display goes on the reading is forgotten together with the window. -/
theorem displayOn (agreed : Agreed presence earlier core) (first second : Bool) :
    Agreed presence (earlier ++ [⟨.perform (.listenProximity false), first⟩,
      ⟨.perform (.listenTilt none), second⟩]) (core.screened true core.sensors.displayOn) := by
  constructor
  case device => exact agreed.device
  case screen => rfl
  case told => exact toldToListen_listen earlier {} first second
  case shownProximity => rfl
  case shownTilt => rfl
  case proximityPresent => exact nofun
  case tiltPresent => exact nofun
  case shownNear => rfl
  case openNear => exact nofun
  case closedFar => exact fun _ => rfl
  case lit => exact fun _ => ⟨rfl, rfl⟩

/-- A sample reaches the window, the reading and what is shown, or none of them. -/
theorem sampled (agreed : Agreed presence earlier core) (sample : ProximitySample) (now : Int) :
    Agreed presence earlier (core.sampled sample now) := by
  cases opened : core.sensors.window with
  | none =>
    rw [Core.sampled_closed opened]
    exact agreed
  | some window =>
    rw [Core.sampled_open opened]
    have listening : core.sensors.listening =
        ⟨true, core.sensors.tiltAt.map fun _ => tiltLatency⟩ := by
      unfold DozeSensors.listening
      rw [opened]
      rfl
    constructor
    case device => exact agreed.device
    case screen => exact agreed.screen
    case told => exact agreed.told.trans listening
    case shownProximity => exact agreed.shownProximity.trans (by rw [listening]; rfl)
    case shownTilt => exact agreed.shownTilt
    case proximityPresent => exact fun _ => agreed.proximityPresent (by rw [listening])
    case tiltPresent => exact agreed.tiltPresent
    case shownNear => rfl
    case openNear =>
      intro other same
      obtain rfl := Option.some.inj same
      rfl
    case closedFar => exact nofun
    case lit =>
      intro screen
      rw [(agreed.lit screen).1] at opened
      cases opened

/-- A sample of the tilt sensor can only move the time of the sample accepted last. -/
theorem tilted (agreed : Agreed presence earlier core) (triggered : Bool) (now : Int) :
    Agreed presence earlier { core with sensors := (core.sensors.tilt triggered now).2 } := by
  unfold DozeSensors.tilt
  split
  · exact agreed
  · next last heard =>
    split
    · exact agreed
    · have listening : core.sensors.listening = ⟨core.sensors.window.isSome, some tiltLatency⟩ := by
        unfold DozeSensors.listening
        rw [heard]
        rfl
      constructor
      case device => exact agreed.device
      case screen => exact agreed.screen
      case told => exact agreed.told.trans listening
      case shownProximity => exact agreed.shownProximity
      case shownTilt => exact agreed.shownTilt.trans (by rw [listening]; rfl)
      case proximityPresent => exact agreed.proximityPresent
      case tiltPresent => exact fun _ => agreed.tiltPresent (by rw [listening]; rfl)
      case shownNear => exact agreed.shownNear
      case openNear => exact agreed.openNear
      case closedFar => exact agreed.closedFar
      case lit =>
        intro screen
        rw [(agreed.lit screen).2] at heard
        cases heard

end Agreed

/-- Where all places agree, the sensors rest as soon as the display is on. -/
theorem Agreed.rests {presence : Presence} {exchanges : List Exchange} {core : Core}
    (agreed : Agreed presence exchanges core) (screen : core.screenOn = true) :
    AtRest exchanges core := by
  obtain ⟨window, tiltAt⟩ := agreed.lit screen
  have listening : core.sensors.listening = {} := by
    unfold DozeSensors.listening
    rw [window, tiltAt]
    rfl
  have far : core.sensors.near = false := agreed.closedFar window
  constructor
  case told => rw [agreed.told, listening]
  case windows => exact ⟨window, tiltAt⟩
  case near => exact far
  case screen => exact screen
  case shownListening =>
    rw [agreed.shownProximity, agreed.shownTilt, listening]
    exact ⟨rfl, rfl⟩
  case shownNear => rw [agreed.shownNear, far]
  case shownScreen => rw [agreed.screen, screen]

/-! ### Events, steps and runs -/

section Runs

variable {presence : Presence} {earlier exchanges : List Exchange} {core next : Core}

theorem glance_silent {now : Int} (glance : Core.Glance now exchanges) :
    ∀ exchange ∈ exchanges, exchange.request.part ≠ .sensors := by
  intro exchange member
  have own : Own .other exchange.request := Core.glance_own glance exchange member
  exact own.ne nofun nofun

theorem agreed_displayChanged (agreed : Agreed presence earlier core) {on : Bool}
    (ends : (core.displayChanged on).Ends exchanges next) :
    Agreed presence (earlier ++ exchanges) next ∧ next.screenOn = on := by
  by_cases same : on = core.screenOn
  · rw [same, Core.displayChanged_same] at ends
    obtain ⟨rfl, rfl⟩ := ends_pure_iff.mp ends
    rw [List.append_nil]
    exact ⟨agreed, same.symm⟩
  · cases on with
    | false =>
      have screen : core.screenOn = true := Bool.of_not_eq_false (Ne.symm same)
      obtain ⟨now, first, second, rfl, rfl⟩ := Core.ends_displayOff screen ends
      exact ⟨agreed.displayOff screen now first second, rfl⟩
    | true =>
      have screen : core.screenOn = false := Bool.of_not_eq_true (Ne.symm same)
      obtain ⟨first, second, rfl, rfl⟩ := Core.ends_displayOn screen ends
      exact ⟨agreed.displayOn first second, rfl⟩

/-- What asks nothing of the sensors and belongs to another part keeps the agreement. -/
theorem Agreed.frame (agreed : Agreed presence earlier core) {part : Part}
    (other : part ≠ .sensors) (own : ∀ exchange ∈ exchanges, Own part exchange.request)
    (frame : Frame part core next) : Agreed presence (earlier ++ exchanges) next := by
  refine agreed.kept (frame.senses other) fun exchange member => ?_
  exact (own exchange member).ne other nofun

/-- **Every event keeps the agreement.** -/
theorem agreed_handle (agreed : Agreed presence earlier core) {event : Event}
    {answer : Bool × Core} (ends : (core.handle event).Ends exchanges answer) :
    Agreed presence (earlier ++ exchanges) answer.2 := by
  by_cases sensed : event.part = .sensors
  · cases event with
    | display on =>
      obtain ⟨next, changed, rfl⟩ := ends_map_iff.mp ends
      exact (agreed_displayChanged agreed changed).1
    | proximity sample =>
      obtain ⟨next, reported, rfl⟩ := ends_map_iff.mp ends
      obtain ⟨now, glance, result⟩ := Core.ends_proximityReported reported
      have senses : next.senses = (core.sampled sample now).senses := by
        rcases result with rfl | rfl
        · rfl
        · rfl
      exact (agreed.sampled sample now).kept senses (glance_silent glance)
    | tilt triggered =>
      obtain ⟨next, reported, rfl⟩ := ends_map_iff.mp ends
      obtain ⟨now, glance, result⟩ := Core.ends_tiltReported reported
      have senses : next.senses =
          { core with sensors := (core.sensors.tilt triggered now).2 }.senses := by
        rcases result with rfl | rfl
        · rfl
        · rfl
      exact (agreed.tilted triggered now).kept senses (glance_silent glance)
    | torchMode camera on => cases sensed
    | torchGone camera => cases sensed
    | settingsChanged change => cases sensed
    | shutdown => cases sensed
  · obtain ⟨own, frame⟩ := Core.handle_frame core event exchanges answer ends
    exact agreed.frame sensed own frame

/-- **Every step keeps the agreement.** -/
theorem agreed_step (agreed : Agreed presence earlier core) {step : Step}
    (ends : (core.step step).Ends exchanges next) :
    Agreed presence (earlier ++ exchanges) next := by
  by_cases sensed : step.part = .sensors
  · obtain ⟨event, rfl, _⟩ := Step.part_eq_sensors sensed
    obtain ⟨answer, handled, rfl⟩ := ends_map_iff.mp ends
    exact agreed_handle agreed handled
  · obtain ⟨own, frame⟩ := Core.step_frame core step exchanges next ends
    exact agreed.frame sensed own frame

/-- Every stream of events keeps the agreement. -/
theorem agreed_handleAll (agreed : Agreed presence earlier core) {events : List Event}
    (ends : (core.handleAll events).Ends exchanges next) :
    Agreed presence (earlier ++ exchanges) next := by
  induction events generalizing core earlier exchanges with
  | nil =>
    obtain ⟨rfl, rfl⟩ := ends_pure_iff.mp ends
    rw [List.append_nil]
    exact agreed
  | cons event rest ih =>
    obtain ⟨before, ⟨more, middle⟩, after, handled, others, rfl⟩ := ends_bind_iff.mp ends
    have here := agreed_handle agreed handled
    rw [← List.append_assoc]
    cases more with
    | false =>
      obtain ⟨rfl, rfl⟩ := ends_pure_iff.mp others
      rw [List.append_nil]
      exact here
    | true => exact ih here others

/-- At the end of a stream the display counts as on. -/
theorem agreed_run (agreed : Agreed presence earlier core) {events : List Event}
    (ends : (core.run events).Ends exchanges next) :
    Agreed presence (earlier ++ exchanges) next ∧ next.screenOn = true := by
  obtain ⟨before, middle, after, handled, rested, rfl⟩ := ends_bind_iff.mp ends
  rw [← List.append_assoc]
  exact agreed_displayChanged (agreed_handleAll agreed handled) rested

/-- **Nothing that comes after a shutdown is handled.** -/
theorem handleAll_shutdown (core : Core) (before after : List Event) :
    core.handleAll (before ++ .shutdown :: after) = core.handleAll before := by
  induction before generalizing core with
  | nil => rfl
  | cons event rest ih =>
    show (core.handle event >>= fun answer => _) = core.handle event >>= fun answer => _
    refine congrArg (core.handle event >>= ·) (funext fun answer => ?_)
    obtain ⟨more, next⟩ := answer
    cases more with
    | false => rfl
    | true => exact ih next

/-- All four places agree when the daemon has just come up. -/
theorem agreed_begun {disk : Disk} {store : Settings.Store} {switches : Option Switches}
    (ends : (Session.overture disk store presence switches).Ends exchanges core) :
    Agreed presence exchanges core := by
  obtain ⟨⟨done, rfl⟩, rfl⟩ := Session.ends_overture ends
  constructor
  case device => rfl
  case screen => rfl
  case told => rfl
  case shownProximity => rfl
  case shownTilt => rfl
  case proximityPresent => exact nofun
  case tiltPresent => exact nofun
  case shownNear => rfl
  case openNear => exact nofun
  case closedFar => exact fun _ => rfl
  case lit => exact fun _ => ⟨rfl, rfl⟩

end Runs

/-- The four places agree throughout a run. -/
theorem agreed_after {σ : Type} (host : Host σ) (device : σ) (disk : Disk) (store : Settings.Store)
    (presence : Presence) (switches : Option Switches) (steps : List Step) :
    let first := Session.opening host device disk store presence switches
    Agreed presence
      ((Session.overture disk store presence switches).transcript host device ++
        exchangesOf (first.journal host steps))
      (first.after host steps).core := by
  intro first
  refine Session.keeps host (fun history core => Agreed presence
    ((Session.overture disk store presence switches).transcript host device ++
      exchangesOf history) core) first ?_ ?_ steps
  · rw [exchangesOf_nil, List.append_nil]
    exact agreed_begun (ends_run host _ device)
  · intro history core entry next agreed ends
    rw [exchangesOf_append, exchangesOf_singleton, ← List.append_assoc]
    exact agreed_step agreed ends

/-- **From the start the four places agree after every step.** At the end of a stream of events,
whatever happened before it, the sensors rest. What comes after a shutdown does nothing. -/
theorem senses_agree {σ : Type} (host : Host σ) (device : σ) (disk : Disk) (store : Settings.Store)
    (presence : Presence) (switches : Option Switches) :
    let overture := (Session.overture disk store presence switches).transcript host device
    let first := Session.opening host device disk store presence switches
    (∀ steps, Agreed presence (overture ++ exchangesOf (first.journal host steps))
      (first.after host steps).core) ∧
    (∀ steps events,
      let session := first.after host steps
      AtRest (overture ++ exchangesOf (first.journal host steps) ++
          (session.core.run events).transcript host session.device)
        ((session.core.run events).run host session.device).1) ∧
    ∀ (core : Core) (before after : List Event),
      core.run (before ++ .shutdown :: after) = core.run before := by
  intro overture first
  have agreed := agreed_after host device disk store presence switches
  refine ⟨agreed, fun steps events => ?_, fun core before after => ?_⟩
  · obtain ⟨still, screen⟩ := agreed_run (agreed steps) (ends_run host _ _)
    exact still.rests screen
  · unfold Core.run
    rw [handleAll_shutdown]

end TouchDispatch
