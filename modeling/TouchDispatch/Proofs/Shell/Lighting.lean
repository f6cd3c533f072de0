/-
**The torch reads back as it was set, and hearing of that changes nothing.**

* `TorchLed.Switched`: what is read back from a diode that was switched;
* `TorchLed.host`: a device whose torch is a diode;
* `Exchange.switched?`: the requests to the torch that succeed;
* `TorchLed.shines_run`: a diode that was switched once in a dialogue shines accordingly at its end;
* `Core.Knows`: what the daemon knows and shows of the torch;
* `knows_of_done`, `knows_step`: it knows what it has brought about, until it hears otherwise;
* `torch_reads_back`: **a diode reads back as it was set, and the report on that leaves everything
  as it is.**
-/

import TouchDispatch.Device.Bench
import TouchDispatch.Proofs.Daemon.Lamp
import TouchDispatch.Proofs.Disk.Numbers
import TouchDispatch.Shell.TorchLed

namespace TouchDispatch

open Dialogue
open TouchDispatch.Text

namespace TorchLed

/-! ### Switching a diode -/

/-- What is read back from a diode that was switched. -/
structure Switched (disk changed : Disk) (directory : Path) (id : String) (enabled : Bool)
    (value : Int) : Prop where
  read : brightness changed directory id = some value
  lit : 0 < value ↔ enabled = true
  off : enabled = false → value = 0
  /-- A greatest brightness that is not even one counts as one. -/
  limited : enabled = true → ∀ limit, disk.Holds (limitNode directory id) limit →
    value = max 1 limit
  unlimited : enabled = true → (∀ limit, ¬ disk.Holds (limitNode directory id) limit) → value = 1

/-- Whether a diode shines, if that can be read. -/
def shines (disk : Disk) (directory : Path) (id : String) : Option Bool :=
  isLit (brightness disk directory id)

section Diode

variable {disk changed : Disk} {directory : Path} {id : String} {enabled : Bool}

theorem level_pos_iff : 0 < level disk directory id enabled ↔ enabled = true := by
  unfold level
  cases enabled with
  | true => exact iff_of_true (by rw [if_pos rfl]; omega) rfl
  | false => exact iff_of_false (Int.lt_irrefl 0) nofun

theorem fits_level : Decimal.FitsInt32 (level disk directory id enabled) := by
  unfold level
  split
  · cases read : disk.readInt? (limitNode directory id) with
    | none => exact ⟨by decide, by decide⟩
    | some limit =>
      obtain ⟨text, _, number⟩ := Option.bind_eq_some_iff.mp read
      obtain ⟨low, high⟩ := Decimal.fits_of_int32? number
      exact ⟨le_max_of_le_right low, max_le (by decide) high⟩
  · exact ⟨by decide, by decide⟩

/-- **A diode reads back as it was set.** -/
theorem switched_of_set (done : set disk directory id enabled = .ok changed) :
    Switched disk changed directory id enabled (level disk directory id enabled) := by
  constructor
  case read => exact Disk.readInt?_of_writeLine fits_level done
  case lit => exact level_pos_iff
  case off =>
    rintro rfl
    rfl
  case limited =>
    rintro rfl limit holds
    rw [level, if_pos rfl, Disk.readInt?_eq_some_iff.mpr holds, Option.getD_some]
  case unlimited =>
    rintro rfl unread
    rw [level, if_pos rfl, Disk.readInt?_eq_none_iff.mpr unread]
    rfl

theorem shines_of_set (done : set disk directory id enabled = .ok changed) :
    shines changed directory id = some enabled := by
  have switched := switched_of_set done
  rw [shines, isLit, switched.read, Option.map_some, Option.some.injEq, Bool.eq_iff_iff,
    decide_eq_true_iff]
  exact switched.lit

/-- A look at a diode that shines tells so, unless the last one has. -/
theorem report_some (id : String) (last : Option Bool) (on : Bool) :
    report id last (some on) = if last = some on then none else some (.torchMode id on) := by
  unfold report
  simp only [eq_comm]

end Diode

/-! ### A device with a diode -/

/-- The outcome of a search for the torch. -/
def search (disk : Disk) (directory : Path) : CameraSearch :=
  match find disk directory with
  | .ok (some id) => .found id
  | .ok none => .missing
  | .error _ => .failed

/-- Switches a diode. The answer is whether that worked, and the tree afterwards. -/
def tell (disk : Disk) (directory : Path) (id : String) (on : Bool) : Bool × Disk :=
  match set disk directory id on with
  | .ok changed => (true, changed)
  | .error _ => (false, disk)

/-- A device whose torch is a diode in a directory, and which is like another one apart from
that. -/
def host {σ : Type} (directory : Path) (rest : Host σ) : Host (Disk × σ) where
  answer
    | .findCamera, (disk, state) => (search disk directory, disk, state)
    | .perform (.torch id on), (disk, state) =>
      let (done, changed) := tell disk directory id on
      (done, changed, state)
    | request, (disk, state) =>
      let (answer, next) := rest.answer request state
      (answer, disk, next)

end TorchLed

/-! ### Requests to the torch -/

/-- The torch that a request switched, and the state that it was put in. -/
def Exchange.switched? : Exchange → Option (String × Bool)
  | ⟨.perform (.torch id on), done⟩ => if done then some (id, on) else none
  | _ => none

theorem asked_of_switched? {exchange : Exchange} {id : String} {on : Bool}
    (switched : exchange.switched? = some (id, on)) :
    exchange.request.torch? = some (id, on) ∧ exchange.torchState? = some on := by
  unfold Exchange.switched? at switched
  split at switched
  · split at switched
    · next done =>
      obtain ⟨rfl, rfl⟩ := Prod.mk.inj (Option.some.inj switched)
      exact ⟨rfl, if_pos done⟩
    · cases switched
  · cases switched

theorem asked_of_torchState? {exchange : Exchange} {on : Bool}
    (state : exchange.torchState? = some on) :
    ∃ id, exchange.request.torch? = some (id, on) := by
  unfold Exchange.torchState? at state
  split at state
  · split at state
    · exact ⟨_, congrArg (fun state => some (_, state)) (Option.some.inj state)⟩
    · cases state
  · cases state

/-- Without a request the torch is not put in any state. -/
theorem torchState?_of_quiet {exchanges : List Exchange}
    (quiet : asked Request.torch? exchanges = []) :
    exchanges.filterMap Exchange.torchState? = [] := by
  refine List.filterMap_eq_nil_iff.mpr fun exchange member => ?_
  refine Option.eq_none_iff_forall_ne_some.mpr fun on state => ?_
  obtain ⟨id, torch⟩ := asked_of_torchState? state
  have request : (id, on) ∈ asked Request.torch? exchanges :=
    List.mem_filterMap.mpr ⟨exchange, member, torch⟩
  rw [quiet] at request
  cases request

theorem quiet_journal {σ : Type} {host : Host σ} {session : Session σ} {step : Step}
    {steps : List Step}
    (quiet : asked Request.torch? (exchangesOf (session.journal host (step :: steps))) = []) :
    asked Request.torch? ((session.core.step step).transcript host session.device) = [] ∧
      asked Request.torch? (exchangesOf ((session.next host step).journal host steps)) = [] :=
  List.append_eq_nil_iff.mp ((asked_append ..).symm.trans quiet)

theorem Request.eq_of_torch? {request : Request} {id : String} {on : Bool}
    (torch : request.torch? = some (id, on)) : request = .perform (.torch id on) := by
  unfold torch? at torch
  split at torch
  · obtain ⟨rfl, rfl⟩ := Prod.mk.inj (Option.some.inj torch)
    rfl
  · cases torch

namespace TorchLed

section Running

variable {σ α : Type} {directory : Path} {rest : Host σ} {id : String} {on : Bool}
  {state : Disk × σ} {session : Session (Disk × σ)}

/-- Only a request to the torch changes the tree, and only if it succeeds. -/
theorem host_tree (request : Request) (state : Disk × σ) :
    ((host directory rest).answer request state).2.1 =
      match request.torch? with
      | some (id, on) => (tell state.1 directory id on).2
      | none => state.1 := by
  cases request with
  | perform call => cases call <;> rfl
  | now | musicActive | systemReady | findCamera => rfl

theorem set_of_tell {disk : Disk} (worked : (tell disk directory id on).1 = true) :
    set disk directory id on = .ok (tell disk directory id on).2 := by
  unfold tell at worked ⊢
  split at worked
  · assumption
  · cases worked

theorem shines_tell {disk : Disk} (shining : shines disk directory id = some on) :
    shines (tell disk directory id on).2 directory id = some on := by
  unfold tell
  cases done : set disk directory id on with
  | ok changed => exact shines_of_set done
  | error failure => exact shining

/-- **A request that succeeds leaves a diode behind that shines accordingly.** -/
theorem shines_answer {request : Request}
    (switched : Exchange.switched? ⟨request, ((host directory rest).answer request state).1⟩ =
      some (id, on)) :
    shines ((host directory rest).answer request state).2.1 directory id = some on := by
  have torch : request.torch? = some (id, on) := (asked_of_switched? switched).1
  obtain rfl : request = .perform (.torch id on) := Request.eq_of_torch? torch
  change (if (tell state.1 directory id on).1 = true then some (id, on) else none) = _ at switched
  split at switched
  · next worked => exact shines_of_set (set_of_tell worked)
  · cases switched

/-- A diode that shines as it is told keeps doing so. -/
theorem shines_kept {dialogue : Dialogue α}
    (requests : ∀ request ∈ asked Request.torch?
      (dialogue.transcript (host directory rest) state), request = (id, on))
    (shining : shines state.1 directory id = some on) :
    shines (dialogue.run (host directory rest) state).2.1 directory id = some on := by
  induction dialogue generalizing state with
  | pure result => exact shining
  | ask request next ih =>
    rw [transcript, ← List.singleton_append, asked_append] at requests
    refine ih _ (fun other member => requests other (List.mem_append_right _ member)) ?_
    rw [host_tree]
    cases torch : request.torch? with
    | none => exact shining
    | some told =>
      have here : told ∈ asked Request.torch?
          [⟨request, ((host directory rest).answer request state).1⟩] :=
        List.mem_filterMap.mpr ⟨_, List.mem_singleton_self _, torch⟩
      rw [requests told (List.mem_append_left _ here)]
      exact shines_tell shining

/-- **A diode that was switched in the course of a dialogue shines accordingly at its end**, if all
requests of the dialogue were to that effect. -/
theorem shines_run {dialogue : Dialogue α}
    (requests : ∀ request ∈ asked Request.torch?
      (dialogue.transcript (host directory rest) state), request = (id, on))
    (done : (id, on) ∈
      (dialogue.transcript (host directory rest) state).filterMap Exchange.switched?) :
    shines (dialogue.run (host directory rest) state).2.1 directory id = some on := by
  induction dialogue generalizing state with
  | pure result => cases done
  | ask request next ih =>
    rw [transcript, ← List.singleton_append, asked_append] at requests
    rw [transcript, ← List.singleton_append, List.filterMap_append] at done
    have later := fun other member => requests other (List.mem_append_right _ member)
    let reply := (host directory rest).answer request state
    change shines ((next reply.1).run (host directory rest) reply.2).2.1 directory id = some on
    rcases List.mem_append.mp done with now | afterwards
    · obtain ⟨exchange, member, switched⟩ := List.mem_filterMap.mp now
      obtain rfl := List.mem_singleton.mp member
      exact shines_kept later (shines_answer switched)
    · exact ih _ later afterwards

/-- What others do in the meantime does not switch a diode. -/
theorem shines_after (steps : List Step)
    (quiet : asked Request.torch?
      (exchangesOf (session.journal (host directory rest) steps)) = [])
    (shining : shines session.device.1 directory id = some on) :
    shines (session.after (host directory rest) steps).device.1 directory id = some on := by
  induction steps generalizing session with
  | nil => exact shining
  | cons step steps ih =>
    obtain ⟨now, later⟩ := quiet_journal quiet
    refine ih later (shines_kept (fun request member => ?_) shining)
    rw [now] at member
    cases member

end Running

end TorchLed

/-! ### What the daemon knows of it -/

/-- What the daemon knows of the torch of a camera, and shows of it. -/
structure Core.Knows (core : Core) (id : String) (on : Bool) : Prop where
  camera : core.lamp.camera = some id
  state : core.lamp.on = on
  shown : core.status.torchOn = on

section Knowing

variable {core next : Core} {step : Step} {exchanges : List Exchange} {id : String} {on : Bool}

/-- **What the daemon has brought about it knows**, and it has asked for nothing else in that
step. -/
theorem knows_of_done (ends : (core.step step).Ends exchanges next)
    (done : (id, on) ∈ exchanges.filterMap Exchange.switched?) :
    next.Knows id on ∧ ∀ request ∈ asked Request.torch? exchanges, request = (id, on) := by
  have lit : Lit core ⟨step, exchanges⟩ next := lit_step ends
  obtain ⟨exchange, member, switched⟩ := List.mem_filterMap.mp done
  obtain ⟨torch, state⟩ := asked_of_switched? switched
  obtain ⟨camera, target⟩ := lit.requests (id, on) (List.mem_filterMap.mpr ⟨_, member, torch⟩)
  have requests : ∀ request ∈ asked Request.torch? exchanges, request = (id, on) := by
    rintro ⟨told, state⟩ member
    obtain ⟨same, opposite⟩ := lit.requests _ member
    exact Prod.ext (Option.some.inj (same.symm.trans camera)) (opposite.trans target.symm)
  -- The last state that the torch was put in is that of a request, so it is the same as all others.
  obtain ⟨last, final⟩ : ∃ last,
      (exchanges.filterMap Exchange.torchState?).getLast? = some last :=
    ⟨_, List.getLast?_eq_some_getLast
      (List.ne_nil_of_mem (List.mem_filterMap.mpr ⟨_, member, state⟩))⟩
  obtain ⟨exchange, member, state⟩ := List.mem_filterMap.mp (List.mem_of_getLast? final)
  obtain ⟨other, torch⟩ := asked_of_torchState? state
  obtain ⟨_, rfl⟩ := Prod.mk.inj (requests _ (List.mem_filterMap.mpr ⟨_, member, torch⟩))
  have states : (Entry.torchStates core.lamp.camera ⟨step, exchanges⟩).getLast? = some last := by
    rw [Entry.torchStates, List.getLast?_append, final, Option.some_or]
  refine ⟨⟨camera, ?_, ?_⟩, requests⟩
  · rw [lit.on, states, Option.getD_some]
  · rw [lit.shown, states, Option.getD_some]

/-- The camera that was found once is the one that counts. -/
theorem camera_kept (known : core.lamp.camera = some id)
    (ends : (core.step step).Ends exchanges next) : next.lamp.camera = some id := by
  have lit : Lit core ⟨step, exchanges⟩ next := lit_step ends
  rw [lit.camera, known, Option.some_or]

/-- **The daemon keeps to what it knows until it hears otherwise**, or switches the torch. -/
theorem knows_step (knows : core.Knows id on) (ends : (core.step step).Ends exchanges next)
    (quiet : asked Request.torch? exchanges = [])
    (agreed : ∀ state, step.torchState? (some id) = some state → state = on) :
    next.Knows id on := by
  have lit : Lit core ⟨step, exchanges⟩ next := lit_step ends
  have last : ∀ before, before = on →
      (Entry.torchStates core.lamp.camera ⟨step, exchanges⟩).getLast?.getD before = on := by
    intro before same
    rw [Entry.torchStates, torchState?_of_quiet quiet, List.append_nil, knows.camera]
    cases reported : step.torchState? (some id) with
    | none => exact same
    | some state => exact agreed state reported
  exact ⟨camera_kept knows.camera ends, lit.on.trans (last _ knows.state),
    lit.shown.trans (last _ knows.shown)⟩

/-- A report of what the daemon knows anyway changes nothing. -/
theorem torchReported_of_knows (knows : core.Knows id on) : core.torchReported id on = core := by
  have lamp : { core.lamp with on } = core.lamp := by rw [← knows.state]
  have status : { core.status with torchOn := on } = core.status := by rw [← knows.shown]
  rw [Core.torchReported, if_pos knows.camera, Core.setTorch, lamp, status]

/-- Any report on the torch is taken over. -/
theorem knows_torchReported (known : core.lamp.camera = some id) (on : Bool) :
    (core.torchReported id on).Knows id on := by
  rw [Core.torchReported, if_pos known]
  exact ⟨known, rfl, rfl⟩

end Knowing

section Meantime

variable {σ : Type} {host : Host σ} {session : Session σ} {steps : List Step} {id : String}
  {on : Bool}

theorem camera_after (known : session.core.lamp.camera = some id) :
    (session.after host steps).core.lamp.camera = some id := by
  induction steps using List.reverseRec with
  | nil => exact known
  | append_singleton steps step ih =>
    rw [Session.after_concat]
    exact camera_kept ih (ends_run host _ _)

theorem knows_after (knows : session.core.Knows id on)
    (quiet : asked Request.torch? (exchangesOf (session.journal host steps)) = [])
    (agreed : ∀ step ∈ steps, ∀ state, step.torchState? (some id) = some state → state = on) :
    (session.after host steps).core.Knows id on := by
  induction steps generalizing session with
  | nil => exact knows
  | cons step steps ih =>
    obtain ⟨now, later⟩ := quiet_journal quiet
    obtain ⟨here, behind⟩ := List.forall_mem_cons.mp agreed
    exact ih (knows_step knows (ends_run host _ _) now here) later behind

end Meantime

/-- **A diode reads back as it was set**: it shines exactly if it was switched on, with its greatest
brightness, or with one where there is none. **The report on a switch of the daemon's own is what
the daemon knows anyway.** Whatever happens between the switch and the next request to the torch, a
look at the diode has to tell of the state that was just set, and hearing of it leaves the daemon in
that state; unless somebody has reported otherwise in the meantime, nothing at all changes. -/
theorem torch_reads_back {σ : Type} (directory : Path) (rest : Host σ) :
    (∀ disk id enabled changed, TorchLed.set disk directory id enabled = .ok changed →
      ∃ value, TorchLed.Switched disk changed directory id enabled value) ∧
    ∀ (session : Session (Disk × σ)) step id on between,
      let host := TorchLed.host directory rest
      let toggled := session.next host step
      let later := toggled.after host between
      let told := later.next host (.report (.torchMode id on))
      (id, on) ∈ ((session.core.step step).transcript host session.device).filterMap
          Exchange.switched? →
        asked Request.torch? (exchangesOf (toggled.journal host between)) = [] →
          toggled.core.Knows id on ∧
          (∀ last, TorchLed.report id last (TorchLed.shines later.device.1 directory id) =
            if last = some on then none else some (.torchMode id on)) ∧
          told.core.Knows id on ∧
          ((∀ step ∈ between, ∀ state, step.torchState? (some id) = some state → state = on) →
            told = later) := by
  refine ⟨fun disk id enabled changed done => ⟨_, TorchLed.switched_of_set done⟩, ?_⟩
  intro session step id on between host toggled later told done quiet
  obtain ⟨knows, requests⟩ := knows_of_done (ends_run host _ session.device) done
  have shining : TorchLed.shines later.device.1 directory id = some on :=
    TorchLed.shines_after between quiet (TorchLed.shines_run requests done)
  have hears : told = ⟨later.core.torchReported id on, later.device⟩ := rfl
  refine ⟨knows, fun last => ?_, ?_, fun agreed => ?_⟩
  · rw [shining, TorchLed.report_some]
  · rw [hears]
    exact knows_torchReported (camera_after knows.camera) on
  · rw [hears, torchReported_of_knows (knows_after knows quiet agreed)]

/-- A directory with a diode that is off and whose greatest brightness makes no sense. -/
def TorchLed.bench : Disk :=
  { nodes :=
      [(["leds"], .directory (.given 0)), (["leds", "torch"], .directory (.given 0)),
        (["leds", "torch", "brightness"], .file (Utf8.octets "0\n") (.given 0)),
        (["leds", "torch", "max_brightness"], .file (Utf8.octets " -5") (.given 0))] }

/-- On a bench with this diode, the torch is found and switched on by the first gesture, with a
brightness of one. The report on that comes after a tilt and a report on another torch, and changes
nothing. -/
theorem torch_reads_back_on_bench :
    let directory : Path := ⟨["leds"]⟩
    let changed := (TorchLed.tell TorchLed.bench directory "torch" true).2
    let host := TorchLed.host directory Bench.host
    let opening := Session.opening host (TorchLed.bench, {}) {} {} { tilt := true } none
    let toggled := opening.next host (.dispatch (.run .torch))
    let between : List Step := [.report (.tilt true), .report (.torchMode "flash" false)]
    let later := toggled.after host between
    TorchLed.brightness changed directory "torch" = some 1 ∧
      (∃ value, TorchLed.Switched TorchLed.bench changed directory "torch" true value) ∧
      toggled.core.Knows "torch" true ∧
      later.next host (.report (.torchMode "torch" true)) = later := by
  intro directory changed host opening toggled between later
  have done : TorchLed.set TorchLed.bench directory "torch" true = .ok changed :=
    TorchLed.set_of_tell (by decide +kernel)
  obtain ⟨reads, tells⟩ := torch_reads_back directory Bench.host
  obtain ⟨knows, _, _, same⟩ := tells opening (.dispatch (.run .torch)) "torch" true between
    (by decide +kernel) (by decide +kernel)
  exact ⟨by decide +kernel, reads _ _ _ _ done, knows, same (by decide)⟩

end TouchDispatch
