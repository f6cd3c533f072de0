/-
**No other gesture has to do with the torch.**

All gestures go through one daemon, and media gestures arm the very hold whose duration the torch
rests for. Still the torch is switched as if there were no other gestures:

* `Lighting`, `Core.lighting`: what switching the torch depends on;
* `Lighting.after`, `ends_lighting`: what a step other than the torch gesture makes of the lighting
  depends on the lighting alone;
* `Step.isAside`: the step has to do with neither the torch nor the settings;
* `torchGesture_beside`: the torch gesture does the same in states with the same lighting;
* `torchAsks`, `torchAsks_other`: what is asked of the torch and its camera, and when, which no step
  but the torch gesture does;
* `Encounter`, `Core.live`: steps, each on the device as it is by then;
* `Glimpse`, `Core.glimpses`: what is seen of the torch at each of them, also what is known and shown
  of it;
* `glimpses_filter`: what is seen of the torch without the steps aside;
* `torch_undisturbed`: **the torch is seen in the same way with and without the other gestures.**
-/

import TouchDispatch.Proofs.Daemon.Aftermath
import TouchDispatch.Proofs.Daemon.Torch
import TouchDispatch.Proofs.Device.Beside

namespace TouchDispatch

open Dialogue
open Settings (Change Store)

/-! ### What switching the torch depends on -/

/-- What switching the torch depends on: what is known and shown of the torch, the lock behind the
hold and its duration, and the settings with everything that they are changed by. Until when the
hold was armed is no part of it. -/
structure Lighting where
  lamp : Lamp
  torchOn : Bool
  tag : String
  millis : Nat
  store : Store
  disk : Disk
  switches : Option Switches

/-- What switching the torch depends on. -/
def Core.lighting (core : Core) : Lighting :=
  ⟨core.lamp, core.status.torchOn, core.hold.tag, core.hold.millis, core.store, core.disk,
    core.switches⟩

namespace Lighting

/-- The torch of a camera is reported to be on or off. -/
def reported (lighting : Lighting) (camera : String) (on : Bool) : Lighting :=
  if lighting.lamp.camera = some camera then
    { lighting with lamp := { lighting.lamp with on }, torchOn := on }
  else lighting

/-- The switches of the panel are brought in line with the settings. -/
def synced (lighting : Lighting) : Lighting :=
  match lighting.switches with
  | none => lighting
  | some switches =>
    let (_, switches, disk) := switches.sync lighting.disk lighting.store.table
    { lighting with disk, switches := some switches }

/-- The settings have changed, and the switches of the panel follow them. -/
def refreshed (lighting : Lighting) (change : Change) : Lighting :=
  if change.touchesBindings then lighting.synced else lighting

/-- What a step other than the torch gesture makes of the lighting. -/
def after (lighting : Lighting) : Step → Lighting
  | .report (.torchMode camera on) => lighting.reported camera on
  | .report (.torchGone camera) => lighting.reported camera false
  | .report (.settingsChanged change) => lighting.refreshed change
  | .deliver listener place =>
    match (lighting.store.unread listener)[place]? with
    | none => lighting
    | some change =>
      { lighting with store := lighting.store.handOut listener place }.refreshed change
  | .settings deed =>
    let (store, disk) := deed.apply lighting.store lighting.disk
    { lighting with store, disk }
  | _ => lighting

end Lighting

/-- Whether a step has to do with neither the torch nor the settings. All gestures but the torch are
such steps. -/
def Step.isAside : Step → Bool
  | .key _ | .take | .report (.display _) | .report (.proximity _) | .report (.tilt _)
  | .report .shutdown => true
  | .report _ | .deliver .. | .settings _ => false
  | .dispatch gesture => decide (gesture ≠ .run .torch)

theorem Lighting.after_aside (lighting : Lighting) {step : Step} (aside : step.isAside = true) :
    lighting.after step = lighting := by
  cases step with
  | report event => cases event <;> first | rfl | cases aside
  | key | take | dispatch => rfl
  | deliver | settings => cases aside

/-! ### Steps other than the torch gesture -/

section Steps

variable {core next : Core} {exchanges : List Exchange}

namespace Core

theorem acquire_armed (hold : Hold) :
    hold.acquire.Ensures (Own .other) fun armed => ∃ endsAt, armed = { hold with endsAt } :=
  .bind (.now (own_other rfl)) fun now _ => .bind (.perform (own_other rfl)) fun _ _ =>
    .pure ⟨now + hold.millis, rfl⟩

/-- An action other than the torch arms the hold at most, and leaves its duration alone. -/
theorem act_lighting (core : Core) {action : Action} (other : action ≠ .torch) :
    (core.act action).Ensures (Own .other) fun next => next.lighting = core.lighting := by
  have felt : ∀ call, Own .other (.perform call) →
      (do core.feedback; let _ ← Dialogue.perform call; return core : Dialogue Core).Ensures
        (Own .other) fun next => next.lighting = core.lighting :=
    fun call own => .bind (feedback_frame core) fun _ _ => .bind (.perform own) fun _ _ => .pure rfl
  cases action with
  | torch => exact absurd rfl other
  | media button =>
    refine .bind (feedback_frame core) fun _ _ => .bind (acquire_armed core.hold) ?_
    rintro _ ⟨endsAt, rfl⟩
    refine .bind (.systemReady (own_other rfl)) fun ready _ => .ite ?_ (.pure rfl)
    refine .bind (.now (own_other rfl)) fun _ _ => .bind (.perform (own_other rfl)) fun _ _ => ?_
    exact .bind (.now (own_other rfl)) fun _ _ => .bind (.perform (own_other rfl)) fun _ _ =>
      .pure rfl
  | camera => exact felt .launchCamera (own_other rfl)
  | wake => exact felt .wakeUp (own_other rfl)
  | launch component => exact felt (.launch component) (own_other rfl)

theorem dispatch_lighting (core : Core) {gesture : Gesture} (other : gesture ≠ .run .torch) :
    (core.dispatch gesture).Ensures (Own .other) fun next => next.lighting = core.lighting := by
  cases gesture with
  | run action =>
    have apart : action ≠ .torch := fun same => other (congrArg Gesture.run same)
    exact .bind (act_lighting core apart) fun _ same => .bind (.now (own_other rfl)) fun _ _ =>
      .pure same
  | slide position =>
    refine (dispatch_slide_handled core position).imp fun next handled => ?_
    obtain ⟨_, _, _, _, rfl⟩ := handled
    rfl

theorem torchReported_lighting (core : Core) (camera : String) (on : Bool) :
    (core.torchReported camera on).lighting = core.lighting.reported camera on := by
  show _ = if core.lamp.camera = some camera then _ else _
  unfold torchReported
  split
  · rfl
  · rfl

theorem syncSwitches_lighting (core : Core) :
    core.lighting.synced =
      { core.lighting with
        disk := core.syncSwitches.disk
        switches := core.syncSwitches.switches } := by
  obtain ⟨_, _, _, _, _, _, _, _, _, _, switches⟩ := core
  cases switches with
  | none => rfl
  | some switches => rfl

theorem refreshed_lighting (core : Core) (change : Change) :
    (core.refreshed change).lighting = core.lighting.refreshed change := by
  unfold Lighting.refreshed
  by_cases bindings : change.touchesBindings = true
  · rw [if_pos bindings, syncSwitches_lighting]
    unfold refreshed lighting
    rw [if_pos bindings, if_pos bindings]
  · rw [if_neg bindings]
    unfold refreshed lighting
    rw [if_neg bindings, if_neg bindings]

end Core

/-- **What a step other than the torch gesture makes of the lighting depends on the lighting
alone.** -/
theorem ends_lighting {step : Step} (other : step ≠ .dispatch (.run .torch))
    (ends : (core.step step).Ends exchanges next) : next.lighting = core.lighting.after step := by
  cases aftermath ends with
  | key handled =>
    obtain ⟨_, _, _, _, rfl⟩ := handled
    rfl
  | @sensors event _ sensors sensed =>
    obtain ⟨_, _, _, _, _, _, _, rfl⟩ := sensed
    cases event <;> first | rfl | cases sensors
  | @torch _ camera on torch =>
    unfold Step.torch? at torch
    split at torch
    · obtain ⟨rfl, rfl⟩ := Prod.mk.inj (Option.some.inj torch)
      exact Core.torchReported_lighting core _ _
    · obtain ⟨rfl, rfl⟩ := Prod.mk.inj (Option.some.inj torch)
      exact Core.torchReported_lighting core _ _
    · cases torch
  | change => exact Core.refreshed_lighting core _
  | @read listener place none =>
    have unread : (core.lighting.store.unread listener)[place]? = .none := none
    unfold Lighting.after
    dsimp only
    rw [unread]
  | @deliver listener place change found =>
    have unread : (core.lighting.store.unread listener)[place]? = some change := found
    unfold Lighting.after
    dsimp only
    rw [unread]
    exact Core.refreshed_lighting { core with store := core.store.handOut listener place } change
  | @dispatch gesture =>
    have apart : gesture ≠ .run .torch := fun same => other (congrArg Step.dispatch same)
    exact (Core.dispatch_lighting core apart _ _ ends).2
  | shutdown | take | settings => rfl

end Steps

/-! ### The torch gesture -/

/-- A request that switching the torch depends on: the time, the camera, and the torch itself. -/
def Request.Lights (request : Request) : Prop :=
  request = .now ∨ request.part = .torch

theorem Request.Lights.decides {request : Request} (lights : request.Lights) :
    request.decides = true := by
  rcases lights with rfl | torch
  · rfl
  · unfold Request.part at torch
    split at torch
    all_goals first | rfl | cases torch

/-- What the torch gesture may ask for. -/
def Request.isTorchGesture : Request → Bool
  | .now | .findCamera | .perform (.torch ..) | .perform (.wakeLock ..) | .perform (.vibrate _) =>
    true
  | _ => false

theorem lights_of_isTorchGesture {request : Request} (gesture : request.isTorchGesture = true)
    (decides : request.decides = true) : request.Lights := by
  unfold Request.isTorchGesture at gesture
  split at gesture
  · exact Or.inl rfl
  · exact Or.inr rfl
  · exact Or.inr rfl
  · cases decides
  · cases decides
  · cases gesture

/-- Two states with the same lighting. -/
def Core.LitAlike (one two : Core) : Prop :=
  two.lighting = one.lighting

section Gesture

variable {one two : Core}

namespace Core

/-- A change that is one of the lighting. -/
theorem LitAlike.through (lit : one.LitAlike two) (change : Lighting → Lighting) {one' two' : Core}
    (first : one'.lighting = change one.lighting) (second : two'.lighting = change two.lighting) :
    one'.LitAlike two' :=
  second.trans ((congrArg change lit).trans first.symm)

theorem rearCamera_beside (lit : one.LitAlike two) :
    Beside (·.isTorchGesture = true) (fun first second => second.1 = first.1 ∧
      first.2.LitAlike second.2) one.rearCamera two.rearCamera := by
  have lamp : two.lamp = one.lamp := congrArg Lighting.lamp lit
  unfold rearCamera
  rw [lamp]
  cases one.lamp.camera with
  | some camera => exact .pure ⟨rfl, lit⟩
  | none =>
    refine .bind (.findCamera rfl) ?_
    rintro search _ rfl
    exact .pure ⟨rfl, lit.through (fun lighting =>
      { lighting with lamp := { one.lamp with camera := search.camera? } }) rfl rfl⟩

theorem feedback_beside (lit : one.LitAlike two) :
    Beside (·.isTorchGesture = true) (fun _ _ => True) one.feedback two.feedback := by
  have table : two.table = one.table := congrArg (·.store.table) lit
  unfold feedback
  rw [table]
  exact .ite (.bind (.perform rfl) fun _ _ _ => .pure trivial) (.pure trivial)

/-- The hold is armed alike, whenever it was armed before. -/
theorem acquire_beside (lit : one.LitAlike two) :
    Beside (·.isTorchGesture = true)
      (fun first second => { one with hold := first }.LitAlike { two with hold := second })
      one.hold.acquire two.hold.acquire := by
  have tag : two.hold.tag = one.hold.tag := congrArg Lighting.tag lit
  have millis : two.hold.millis = one.hold.millis := congrArg Lighting.millis lit
  unfold Hold.acquire
  rw [tag, millis]
  refine .bind (.now rfl) fun _ _ _ => .bind (.perform rfl) fun _ _ _ => .pure ?_
  exact lit.through (fun lighting =>
    { lighting with tag := one.hold.tag, millis := one.hold.millis }) rfl rfl

theorem LitAlike.setTorch (lit : one.LitAlike two) (on : Bool) :
    (one.setTorch on).LitAlike (two.setTorch on) :=
  lit.through (fun lighting =>
    { lighting with lamp := { lighting.lamp with on }, torchOn := on }) rfl rfl

theorem toggleTorch_beside (lit : one.LitAlike two) :
    Beside (·.isTorchGesture = true) LitAlike one.toggleTorch two.toggleTorch := by
  refine .bind (rearCamera_beside lit) ?_
  rintro ⟨camera, first⟩ ⟨other, second⟩ ⟨same, lit⟩
  obtain rfl : other = camera := same
  change first.LitAlike second at lit
  have lamp : second.lamp = first.lamp := congrArg Lighting.lamp lit
  have millis : second.hold.millis = first.hold.millis := congrArg Lighting.millis lit
  cases other with
  | none => exact .pure lit
  | some camera =>
    refine .bind (.now rfl) ?_
    rintro now _ rfl
    -- The check looks at the last switching of the torch, not at until when the hold was armed.
    rw [lamp, millis]
    refine .ite (.pure lit) (.bind (acquire_beside lit) fun held armed holding => ?_)
    refine .bind (feedback_beside lit) fun _ _ _ => .bind (.torch rfl) ?_
    rintro switched _ rfl
    have later : { first with hold := held, lamp := { first.lamp with armedAt := now } }.LitAlike
        { second with hold := armed, lamp := { first.lamp with armedAt := now } } :=
      holding.through (fun lighting =>
        { lighting with lamp := { first.lamp with armedAt := now } }) rfl rfl
    refine .pure ?_
    cases switched with
    | true => exact later.setTorch _
    | false => exact later

/-- **The torch gesture does the same in states with the same lighting.** -/
theorem torchGesture_beside (lit : one.LitAlike two) :
    Beside (·.isTorchGesture = true) LitAlike (one.dispatch (.run .torch))
      (two.dispatch (.run .torch)) := by
  refine .bind (toggleTorch_beside lit) fun first second lit => .bind (.now rfl) ?_
  rintro now _ rfl
  exact .pure lit

end Core

end Gesture

/-! ### What is seen of the torch -/

/-- A request to the torch or its camera. -/
def Request.ofTorch? (request : Request) : Option Request :=
  if request.part = .torch then some request else none

/-- What is asked of the torch and its camera in the course of some exchanges, each with what the
clock showed in their course. -/
def torchAsks (exchanges : List Exchange) : List (List Int × Request) :=
  (asked Request.ofTorch? exchanges).map fun request => (clockReadings exchanges, request)

theorem asked_congr {β : Type} (kind : Request → Option β) {exchanges others : List Exchange}
    (like : List.Forall₂ Exchange.Like exchanges others) :
    asked kind others = asked kind exchanges := by
  have project : ∀ list, asked kind list = (requests list).filterMap kind := fun list =>
    (List.filterMap_map ..).symm
  rw [project, project, requests_congr like]

theorem clockReadings_congr {exchanges others : List Exchange}
    (like : List.Forall₂ Exchange.Like exchanges others) :
    clockReadings others = clockReadings exchanges := by
  induction like with
  | nil => rfl
  | @cons one two _ _ head _ ih =>
    have reading : two.reading? = one.reading? := by
      obtain @⟨request, first, second, same⟩ := head
      cases request with
      | now => exact congrArg some (same rfl).symm
      | musicActive | systemReady | findCamera | perform => rfl
    unfold clockReadings at ih ⊢
    rw [List.filterMap_cons, List.filterMap_cons, reading, ih]

/-- The torch is asked for in the same way, at the same time. -/
theorem torchAsks_congr {exchanges others : List Exchange}
    (like : List.Forall₂ Exchange.Like exchanges others) :
    torchAsks others = torchAsks exchanges := by
  unfold torchAsks
  rw [asked_congr _ like, clockReadings_congr like]

/-- **A step other than the torch gesture asks nothing of the torch.** -/
theorem torchAsks_other {core next : Core} {step : Step} {exchanges : List Exchange}
    (other : step ≠ .dispatch (.run .torch)) (ends : (core.step step).Ends exchanges next) :
    torchAsks exchanges = [] := by
  have own := (Core.step_frame core step exchanges next ends).1
  have apart : step.part ≠ .torch := fun torch => other (Step.part_eq_torch torch)
  have none : asked Request.ofTorch? exchanges = [] :=
    asked_eq_nil fun exchange member => if_neg ((own exchange member).ne apart nofun)
  unfold torchAsks
  rw [none]
  rfl

/-- What is seen of the torch at a step. -/
structure Glimpse where
  step : Step
  /-- What is asked of it and of its camera, and when. -/
  asks : List (List Int × Request)
  /-- What is known of it after the step. -/
  lamp : Lamp
  /-- Whether it is shown as on after the step. -/
  torchOn : Bool

/-- A step, and the state of a device when it comes. -/
structure Encounter (σ : Type) where
  step : Step
  device : σ

/-- The same step, on two devices that are alike. -/
structure Encounter.Like {σ τ : Type} (like : σ → τ → Prop) (one : Encounter σ)
    (two : Encounter τ) : Prop where
  step : two.step = one.step
  device : like one.device two.device

namespace Core

variable {σ τ : Type}

/-- The daemon after a step on a device. -/
def meet (host : Host σ) (core : Core) (encounter : Encounter σ) : Core :=
  ((core.step encounter.step).run host encounter.device).1

/-- The daemon after steps, one after another. -/
def live (host : Host σ) (core : Core) (encounters : List (Encounter σ)) : Core :=
  encounters.foldl (meet host) core

/-- What is seen of the torch at a step on a device. -/
def glimpse (host : Host σ) (core : Core) (encounter : Encounter σ) : Glimpse where
  step := encounter.step
  asks := torchAsks ((core.step encounter.step).transcript host encounter.device)
  lamp := (core.meet host encounter).lamp
  torchOn := (core.meet host encounter).status.torchOn

/-- What is seen of the torch at steps, one after another. -/
def glimpses (host : Host σ) (core : Core) : List (Encounter σ) → List Glimpse
  | [] => []
  | encounter :: rest =>
    core.glimpse host encounter :: (core.meet host encounter).glimpses host rest

/-! ### Runs -/

variable {like : σ → τ → Prop} {host : Host σ} {other : Host τ} {full thin : Core}

/-- A step aside asks nothing of the torch and leaves the lighting alone. -/
theorem meet_aside (host : Host σ) (core : Core) {encounter : Encounter σ}
    (aside : encounter.step.isAside = true) :
    (core.glimpse host encounter).asks = [] ∧ core.LitAlike (core.meet host encounter) := by
  have apart : encounter.step ≠ .dispatch (.run .torch) := by
    intro torch
    rw [torch] at aside
    cases aside
  have ends := ends_run host (core.step encounter.step) encounter.device
  exact ⟨torchAsks_other apart ends,
    (ends_lighting apart ends).trans (core.lighting.after_aside aside)⟩

/-- **Any other step is seen in the same way in states with the same lighting.** -/
theorem meet_lit (agree : host.Agree Request.Lights like other) (lit : full.LitAlike thin)
    {one : Encounter σ} {two : Encounter τ} (same : one.Like like two) :
    thin.glimpse other two = full.glimpse host one ∧
      (full.meet host one).LitAlike (thin.meet other two) := by
  obtain ⟨_, device⟩ := one
  obtain ⟨step, counterpart⟩ := two
  obtain ⟨rfl, devices⟩ := same
  suffices seen : torchAsks ((thin.step step).transcript other counterpart) =
      torchAsks ((full.step step).transcript host device) ∧
        (full.meet host ⟨step, device⟩).LitAlike (thin.meet other ⟨step, counterpart⟩) by
    obtain ⟨asks, lit⟩ := seen
    refine ⟨?_, lit⟩
    have lamp : (thin.meet other ⟨step, counterpart⟩).lamp = (full.meet host ⟨step, device⟩).lamp :=
      congrArg Lighting.lamp lit
    have shown : (thin.meet other ⟨step, counterpart⟩).status.torchOn =
        (full.meet host ⟨step, device⟩).status.torchOn := congrArg Lighting.torchOn lit
    unfold glimpse
    rw [asks, lamp, shown]
  by_cases torch : step = .dispatch (.run .torch)
  · subst torch
    obtain ⟨final, _, exchanges⟩ := (torchGesture_beside lit).run_agree
      (fun _ => lights_of_isTorchGesture) agree devices
    exact ⟨torchAsks_congr exchanges, final⟩
  · have first := ends_run host (full.step step) device
    have second := ends_run other (thin.step step) counterpart
    refine ⟨?_, ?_⟩
    · rw [torchAsks_other torch first, torchAsks_other torch second]
    · exact lit.through (·.after step) (ends_lighting torch first) (ends_lighting torch second)

/-- **The torch is seen in the same way without the steps aside.** -/
theorem glimpses_filter (agree : host.Agree Request.Lights like other) (lit : full.LitAlike thin)
    {encounters : List (Encounter σ)} {others : List (Encounter τ)}
    (kept : List.Forall₂ (Encounter.Like like)
      (encounters.filter fun encounter => !encounter.step.isAside) others) :
    (full.glimpses host encounters).filter (fun glimpse => !glimpse.step.isAside) =
        thin.glimpses other others ∧
      (∀ glimpse ∈ full.glimpses host encounters, glimpse.step.isAside = true →
        glimpse.asks = []) ∧
      (full.live host encounters).LitAlike (thin.live other others) := by
  induction encounters generalizing full thin others with
  | nil =>
    cases kept
    exact ⟨rfl, List.forall_mem_nil _, lit⟩
  | cons encounter rest ih =>
    have listed : full.glimpses host (encounter :: rest) =
        full.glimpse host encounter :: (full.meet host encounter).glimpses host rest := rfl
    rw [listed]
    cases aside : encounter.step.isAside with
    | true =>
      have left : (!(full.glimpse host encounter).step.isAside) = false := congrArg (!·) aside
      rw [List.filter_cons, aside] at kept
      obtain ⟨asks, next⟩ := full.meet_aside host aside
      have still : (full.meet host encounter).LitAlike thin := lit.trans next.symm
      obtain ⟨seen, silent, final⟩ := ih still kept
      rw [List.filter_cons, left]
      exact ⟨seen, List.forall_mem_cons.mpr ⟨fun _ => asks, silent⟩, final⟩
    | false =>
      have stays : (!(full.glimpse host encounter).step.isAside) = true := congrArg (!·) aside
      rw [List.filter_cons, aside] at kept
      cases kept with
      | cons same kept =>
        obtain ⟨glimpsed, next⟩ := meet_lit agree lit same
        obtain ⟨seen, silent, final⟩ := ih next kept
        rw [List.filter_cons, stays]
        refine ⟨congrArg₂ List.cons glimpsed.symm seen, ?_, final⟩
        refine List.forall_mem_cons.mpr ⟨fun other => ?_, silent⟩
        cases aside.symm.trans other

end Core

/-- What is asked of the torch is asked at the steps that are not aside. -/
theorem asks_filter {glimpses : List Glimpse}
    (silent : ∀ glimpse ∈ glimpses, glimpse.step.isAside = true → glimpse.asks = []) :
    (glimpses.filter fun glimpse => !glimpse.step.isAside).flatMap Glimpse.asks =
      glimpses.flatMap Glimpse.asks := by
  induction glimpses with
  | nil => rfl
  | cons glimpse rest ih =>
    obtain ⟨here, later⟩ := List.forall_mem_cons.mp silent
    rw [List.filter_cons, List.flatMap_cons, ← ih later]
    cases aside : glimpse.step.isAside with
    | true =>
      rw [here aside]
      rfl
    | false => rfl

/-- **No other gesture has to do with the torch.** Gestures are performed in any order, with changes
of the settings, reports and keys between them, each on the device as it is by then. Of these only
the torch gestures, the reports on the torch and what becomes of the settings are kept; they come on
devices that show the same time, find the same camera and switch the torch as before, whatever else
they answer. Then the torch and its camera are asked for the same, at the same times. What is seen
of the torch at each step that is kept is the same, nothing is asked of it at any other step, and in
the end, and so after any number of steps, it is known and shown in the same way. -/
theorem torch_undisturbed {σ τ : Type} {like : σ → τ → Prop} (host : Host σ) (other : Host τ)
    (agree : host.Agree Request.Lights like other) (core : Core) (encounters : List (Encounter σ))
    (others : List (Encounter τ))
    (kept : List.Forall₂ (Encounter.Like like)
      (encounters.filter fun encounter => !encounter.step.isAside) others) :
    let full := core.glimpses host encounters
    let thin := core.glimpses other others
    full.flatMap Glimpse.asks = thin.flatMap Glimpse.asks ∧
    full.filter (fun glimpse => !glimpse.step.isAside) = thin ∧
    (∀ glimpse ∈ full, glimpse.step.isAside = true → glimpse.asks = []) ∧
    (core.live host encounters).lighting = (core.live other others).lighting := by
  intro full thin
  have lit : core.LitAlike core := rfl
  obtain ⟨seen, silent, final⟩ := Core.glimpses_filter agree lit kept
  refine ⟨?_, seen, silent, final.symm⟩
  rw [← asks_filter silent]
  exact congrArg (List.flatMap Glimpse.asks) seen

/-- The torch is switched on, a title is skipped, which arms the hold anew, and two seconds after
the first gesture the torch is switched off all the same. -/
theorem torch_undisturbed_by_title :
    let torch : Step := .dispatch (.run .torch)
    let report : Step := .report (.torchGone "0")
    let full : List (Encounter Bench) := [
      ⟨torch, {}⟩, ⟨.dispatch (.run (.media .next)), { clock := 11500 }⟩,
      ⟨torch, { clock := 11999 }⟩, ⟨.dispatch (.slide .top), { clock := 11999 }⟩,
      ⟨torch, { clock := 12000 }⟩, ⟨report, { clock := 12000 }⟩]
    let thin : List (Encounter Bench) := [
      ⟨torch, { failing := [.wakeLock] }⟩, ⟨torch, { clock := 11999 }⟩,
      ⟨torch, { clock := 12000, failing := [.vibrate] }⟩, ⟨report, { clock := 12000 }⟩]
    let core := Session.begun {} { table := [(Settings.feedbackName, .bool true)] } {} none
    (core.glimpses Bench.host full).flatMap Glimpse.asks =
      (core.glimpses Bench.host thin).flatMap Glimpse.asks ∧
    (core.glimpses Bench.host full).flatMap Glimpse.asks = [
      ([10000, 10000, 10000], .findCamera),
      ([10000, 10000, 10000], .perform (.torch "0" true)),
      ([12000, 12000, 12000], .perform (.torch "0" false))] := by
  intro torch report full thin core
  have agree : Bench.host.Agree Request.Lights Bench.Akin Bench.host :=
    Bench.agree_of_akin.imp fun _ => Request.Lights.decides
  have akin : ∀ (clock : Int) (broken : List Fallible), broken.contains .findCamera = false →
      broken.contains .torch = false →
        Bench.Akin { clock } { clock, failing := broken } := fun _ _ search torch =>
    ⟨rfl, rfl, rfl, rfl, rfl, search.symm, torch.symm⟩
  have kept : List.Forall₂ (Encounter.Like Bench.Akin)
      (full.filter fun encounter => !encounter.step.isAside) thin := by
    refine .cons ⟨rfl, akin 10000 [.wakeLock] rfl rfl⟩ (.cons ⟨rfl, akin 11999 [] rfl rfl⟩ ?_)
    exact .cons ⟨rfl, akin 12000 [.vibrate] rfl rfl⟩ (.cons ⟨rfl, akin 12000 [] rfl rfl⟩ .nil)
  refine ⟨(torch_undisturbed Bench.host Bench.host agree core full thin kept).1, ?_⟩
  decide +kernel

end TouchDispatch
