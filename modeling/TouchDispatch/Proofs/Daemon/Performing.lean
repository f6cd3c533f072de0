/-
**What performing a gesture comes to, exchange by exchange.**

A gesture has few courses, whatever the device answers, and each of them is a short list:

* `Felt`: the click by which a gesture is felt, if the settings want one;
* `Hold.arming`, `Hold.armed`: what arming a hold asks for, and the hold afterwards;
* `Sought`: the rear camera is known already, or it is searched for once;
* `Pressed`: a media button goes down and up, or is dropped;
* `Slid`: a slider move switches the mode and is confirmed, or its mode is unknown;
* `Performing`: **the courses of all gestures**, with the state of the daemon afterwards;
* `ends_performing`: performing a gesture takes one of these courses and is recorded.
-/

import TouchDispatch.Daemon.Perform
import TouchDispatch.Proofs.Device.Course

namespace TouchDispatch

open Dialogue

/-! ### Parts of a gesture -/

/-- A gesture is felt if the settings want that. -/
inductive Felt (table : Settings.Table) : List Exchange → Prop
  | click (done : Bool) (wanted : Settings.feedback table = true) :
      Felt table [⟨.perform (.vibrate .click), done⟩]
  | silent (unwanted : Settings.feedback table = false) : Felt table []

/-- What arming a hold asks for, when the clock shows a time. -/
def Hold.arming (hold : Hold) (time : Int) (done : Bool) : List Exchange :=
  [⟨.now, time⟩, ⟨.perform (.wakeLock hold.tag hold.millis), done⟩]

/-- The hold, armed at a time. -/
def Hold.armed (hold : Hold) (time : Int) : Hold :=
  { hold with endsAt := time + hold.millis }

/-- How the rear camera is come by: it is known already, or it is searched for once. -/
inductive Sought (core : Core) : List Exchange → Option String → Prop
  | known {camera : String} (lamp : core.lamp.camera = some camera) : Sought core [] (some camera)
  | searched (search : CameraSearch) (lamp : core.lamp.camera = none) :
      Sought core [⟨.findCamera, search⟩] search.camera?

/-- A media button goes down and up, unless the system has not come up. -/
inductive Pressed (button : MediaButton) : List Exchange → Prop
  | dropped : Pressed button [⟨.systemReady, false⟩]
  | pressed (downAt upAt : Int) (first second : Bool) :
      Pressed button [⟨.systemReady, true⟩,
        ⟨.now, downAt⟩, ⟨.perform (.media ⟨button, .down, downAt, downAt⟩), first⟩,
        ⟨.now, upAt⟩, ⟨.perform (.media ⟨button, .up, downAt, max upAt (downAt + 1)⟩), second⟩]

/-- A slider move to the mode with an id sets what the mode is about and is confirmed then. -/
inductive Slid (id : Int) : List Exchange → Prop
  | unknown (unknown : Mode.ofId? id = none) : Slid id []
  | quiet {zen : ZenMode} (mode : Mode.ofId? id = some ⟨zen, none⟩) (first last : Bool) :
      Slid id [⟨.perform (.zen zen), first⟩, ⟨.perform (.vibrate (Mode.effect id)), last⟩]
  | rung {zen : ZenMode} {ringer : RingerMode} (mode : Mode.ofId? id = some ⟨zen, some ringer⟩)
      (first second last : Bool) :
      Slid id [⟨.perform (.zen zen), first⟩, ⟨.perform (.ringer ringer), second⟩,
        ⟨.perform (.vibrate (Mode.effect id)), last⟩]

/-- The call of an action that consists of one. -/
def Action.call? : Action → Option Call
  | .camera => some .launchCamera
  | .wake => some .wakeUp
  | .launch component => some (.launch component)
  | .torch | .media _ => none

/-! ### Courses -/

/-- The courses of performing a gesture, up to its record. -/
inductive Performing (core : Core) : Gesture → List Exchange → Core → Prop
  /-- There is no rear camera. -/
  | missing {search : List Exchange} (sought : Sought core search none) :
      Performing core (.run .torch) search core
  /-- A gesture switched the torch just before. -/
  | dropped {search : List Exchange} {camera : String} (check : Int)
      (sought : Sought core search (some camera))
      (soon : Time.elapsed core.lamp.armedAt check < core.hold.millis) :
      Performing core (.run .torch) (search ++ [⟨.now, check⟩])
        { core with lamp := { core.lamp with camera := some camera } }
  /-- The torch is told to go on or off. -/
  | switched {search felt : List Exchange} {camera : String} (check time : Int)
      (locked done : Bool) (sought : Sought core search (some camera))
      (late : ¬ Time.elapsed core.lamp.armedAt check < core.hold.millis)
      (feels : Felt core.table felt) :
      Performing core (.run .torch)
        (search ++ (⟨.now, check⟩ :: (core.hold.arming time locked ++ (felt ++
          [⟨.perform (.torch camera (!core.lamp.on)), done⟩]))))
        { core with
          hold := core.hold.armed time
          lamp := ⟨some camera, if done then !core.lamp.on else core.lamp.on, check⟩
          status := { core.status with
            torchOn := if done then !core.lamp.on else core.status.torchOn } }
  | media {felt pressed : List Exchange} {button : MediaButton} (time : Int) (locked : Bool)
      (feels : Felt core.table felt) (presses : Pressed button pressed) :
      Performing core (.run (.media button)) (felt ++ (core.hold.arming time locked ++ pressed))
        { core with hold := core.hold.armed time }
  /-- The action consists of one call. -/
  | called {felt : List Exchange} {action : Action} {call : Call} (done : Bool)
      (calls : action.call? = some call) (feels : Felt core.table felt) :
      Performing core (.run action) (felt ++ [⟨.perform call, done⟩]) core
  | slid {exchanges : List Exchange} {position : Position}
      (slid : Slid ((Settings.sliderMap core.table).modeAt position) exchanges) :
      Performing core (.slide position) exchanges core

section Courses

variable {core next : Core} {exchanges : List Exchange}

theorem ends_feedback (ends : core.feedback.Ends exchanges ()) :
    Felt core.table exchanges := by
  unfold Core.feedback at ends
  split at ends
  · next wanted =>
    obtain ⟨done, vibrated, _⟩ := ends_map_iff.mp ends
    rw [ends_perform_iff.mp vibrated]
    exact .click done wanted
  · next unwanted =>
    obtain ⟨rfl, _⟩ := ends_pure_iff.mp ends
    exact .silent (Bool.of_not_eq_true unwanted)

theorem ends_acquire {hold armed : Hold} (ends : hold.acquire.Ends exchanges armed) :
    ∃ time done, exchanges = hold.arming time done ∧ armed = hold.armed time := by
  obtain ⟨_, time, _, clock, rest, rfl⟩ := ends_bind_iff.mp ends
  obtain ⟨done, locked, rfl⟩ := ends_map_iff.mp rest
  rw [ends_now_iff.mp clock, ends_perform_iff.mp locked]
  exact ⟨time, done, rfl, rfl⟩

theorem ends_rearCamera {camera : Option String}
    (ends : core.rearCamera.Ends exchanges (camera, next)) :
    Sought core exchanges camera ∧ next = { core with lamp := { core.lamp with camera } } := by
  unfold Core.rearCamera at ends
  cases known : core.lamp.camera with
  | some id =>
    rw [known] at ends
    obtain ⟨rfl, same⟩ := ends_pure_iff.mp ends
    obtain ⟨rfl, rfl⟩ := Prod.mk.inj same
    exact ⟨.known known, by rw [← known]⟩
  | none =>
    rw [known] at ends
    obtain ⟨search, found, same⟩ := ends_map_iff.mp ends
    obtain ⟨rfl, rfl⟩ := Prod.mk.inj same
    rw [ends_findCamera_iff.mp found]
    exact ⟨.searched search known, rfl⟩

/-- Being felt asks for nothing but a click. -/
theorem Felt.asked_eq_nil {β : Type} {kind : Request → Option β} {table : Settings.Table}
    (feels : Felt table exchanges) (other : kind (.perform (.vibrate .click)) = none) :
    asked kind exchanges = [] := by
  cases feels with
  | click done => exact List.filterMap_cons_none other
  | silent => rfl

/-- Coming by the camera asks for nothing but a search. -/
theorem Sought.asked_eq_nil {β : Type} {kind : Request → Option β} {camera : Option String}
    (sought : Sought core exchanges camera) (other : kind .findCamera = none) :
    asked kind exchanges = [] := by
  cases sought with
  | known => rfl
  | searched search => exact List.filterMap_cons_none other

/-- Without a camera nothing was known before. -/
theorem Sought.missing (sought : Sought core exchanges none) : core.lamp.camera = none := by
  generalize missing : (none : Option String) = camera at sought
  cases sought with
  | known => cases missing
  | searched search lamp => exact lamp.trans missing

/-- **Switching the torch takes one of three courses.** -/
theorem ends_toggleTorch (ends : core.toggleTorch.Ends exchanges next) :
    Performing core (.run .torch) exchanges next := by
  obtain ⟨search, ⟨camera, found⟩, rest, searched, others, rfl⟩ := ends_bind_iff.mp ends
  obtain ⟨sought, rfl⟩ := ends_rearCamera searched
  cases camera with
  | none =>
    obtain ⟨rfl, rfl⟩ := ends_pure_iff.mp others
    rw [List.append_nil, ← sought.missing]
    exact .missing sought
  | some camera =>
    obtain ⟨first, check, after, clock, checked, rfl⟩ := ends_bind_iff.mp others
    rw [ends_now_iff.mp clock]
    change (if Time.elapsed core.lamp.armedAt check < core.hold.millis then _ else _ :
      Dialogue Core).Ends after next at checked
    by_cases soon : Time.elapsed core.lamp.armedAt check < core.hold.millis
    · rw [if_pos soon] at checked
      obtain ⟨rfl, rfl⟩ := ends_pure_iff.mp checked
      exact .dropped check sought soon
    · rw [if_neg soon] at checked
      obtain ⟨_, hold, _, acquired, feels, rfl⟩ := ends_bind_iff.mp checked
      obtain ⟨felt, _, _, vibrated, last, rfl⟩ := ends_bind_iff.mp feels
      obtain ⟨done, told, rfl⟩ := ends_map_iff.mp last
      obtain ⟨time, locked, rfl, rfl⟩ := ends_acquire acquired
      have course := Performing.switched check time locked done sought soon (ends_feedback vibrated)
      rw [ends_perform_iff.mp told]
      cases done with
      | true => exact course
      | false => exact course

/-- **A media button arms the hold, whether or not it is pressed then.** -/
theorem ends_sendMedia {button : MediaButton} (ends : (core.sendMedia button).Ends exchanges next) :
    ∃ time locked pressed, Pressed button pressed ∧
      exchanges = core.hold.arming time locked ++ pressed ∧
        next = { core with hold := core.hold.armed time } := by
  obtain ⟨_, hold, pressed, acquired, rest, rfl⟩ := ends_bind_iff.mp ends
  obtain ⟨time, locked, rfl, rfl⟩ := ends_acquire acquired
  obtain ⟨_, ready, _, asked, sent, rfl⟩ := ends_bind_iff.mp rest
  rw [ends_systemReady_iff.mp asked]
  cases ready with
  | false =>
    obtain ⟨rfl, rfl⟩ := ends_pure_iff.mp sent
    exact ⟨time, locked, _, .dropped, rfl, rfl⟩
  | true =>
    obtain ⟨_, downAt, _, downClock, downs, rfl⟩ := ends_bind_iff.mp sent
    obtain ⟨_, first, _, down, others, rfl⟩ := ends_bind_iff.mp downs
    obtain ⟨_, upAt, _, upClock, ups, rfl⟩ := ends_bind_iff.mp others
    obtain ⟨second, up, rfl⟩ := ends_map_iff.mp ups
    rw [ends_now_iff.mp downClock, ends_perform_iff.mp down, ends_now_iff.mp upClock,
      ends_perform_iff.mp up]
    exact ⟨time, locked, _, .pressed downAt upAt first second, rfl, rfl⟩

theorem ends_slide {position : Position} (ends : (core.slide position).Ends exchanges ()) :
    Slid ((Settings.sliderMap core.table).modeAt position) exchanges := by
  unfold Core.slide at ends
  dsimp only at ends
  generalize (Settings.sliderMap core.table).modeAt position = id at ends
  cases mode : Mode.ofId? id with
  | none =>
    rw [mode] at ends
    obtain ⟨rfl, _⟩ := ends_pure_iff.mp ends
    exact .unknown mode
  | some settings =>
    rw [mode] at ends
    obtain ⟨zen, ringer⟩ := settings
    obtain ⟨_, first, _, silenced, rest, rfl⟩ := ends_bind_iff.mp ends
    rw [ends_perform_iff.mp silenced]
    cases ringer with
    | none =>
      obtain ⟨last, confirmed, _⟩ := ends_map_iff.mp rest
      rw [ends_perform_iff.mp confirmed]
      exact .quiet mode first last
    | some ringer =>
      obtain ⟨_, second, _, rung, final, rfl⟩ := ends_bind_iff.mp rest
      obtain ⟨last, confirmed, _⟩ := ends_map_iff.mp final
      rw [ends_perform_iff.mp rung, ends_perform_iff.mp confirmed]
      exact .rung mode first second last

theorem ends_act {action : Action} (ends : (core.act action).Ends exchanges next) :
    Performing core (.run action) exchanges next := by
  have called : ∀ {action : Action} {call : Call}, action.call? = some call →
      (do core.feedback; let _ ← Dialogue.perform call; return core : Dialogue Core).Ends
        exchanges next → Performing core (.run action) exchanges next := by
    intro action call calls ends
    obtain ⟨felt, _, _, vibrated, rest, rfl⟩ := ends_bind_iff.mp ends
    obtain ⟨done, told, rfl⟩ := ends_map_iff.mp rest
    rw [ends_perform_iff.mp told]
    exact .called done calls (ends_feedback vibrated)
  cases action with
  | torch => exact ends_toggleTorch ends
  | media button =>
    obtain ⟨felt, _, _, vibrated, rest, rfl⟩ := ends_bind_iff.mp ends
    obtain ⟨time, locked, pressed, presses, rfl, rfl⟩ := ends_sendMedia rest
    exact .media time locked (ends_feedback vibrated) presses
  | camera | wake | launch => exact called rfl ends

/-- **Performing a gesture takes one of its courses, and is recorded when the clock was read once
more.** -/
theorem ends_performing {gesture : Gesture} (ends : (core.dispatch gesture).Ends exchanges next) :
    ∃ before performed time, Performing core gesture before performed ∧
      exchanges = before ++ [⟨.now, time⟩] ∧
        next = performed.withStatus (·.recordGesture gesture time) := by
  cases gesture with
  | run action =>
    obtain ⟨before, performed, _, acted, recorded, rfl⟩ := ends_bind_iff.mp ends
    obtain ⟨time, clock, rfl⟩ := ends_map_iff.mp recorded
    rw [ends_now_iff.mp clock]
    exact ⟨before, performed, time, ends_act acted, rfl, rfl⟩
  | slide position =>
    obtain ⟨before, _, _, slid, rest, rfl⟩ := ends_bind_iff.mp ends
    obtain ⟨_, _, _, same, recorded, rfl⟩ := ends_bind_iff.mp rest
    obtain ⟨rfl, rfl⟩ := ends_pure_iff.mp same
    obtain ⟨time, clock, rfl⟩ := ends_map_iff.mp recorded
    rw [ends_now_iff.mp clock]
    exact ⟨before, _, time, .slid (ends_slide slid), rfl, rfl⟩

end Courses

end TouchDispatch
