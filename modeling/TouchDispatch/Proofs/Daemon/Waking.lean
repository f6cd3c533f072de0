/-
**A sample of the proximity sensor wakes the screen by what happened since the display went off.**

* `DozeSensors.Fits`: a hand that waves, or a phone that leaves a pocket;
* `DozeSensors.Woken`: what has to have happened before a sample for it to wake the screen;
* `proximity_wakes_iff`: a sample wakes the screen exactly then;
* `Core.uses`, `Session.uses`: what the daemon does with the sensors in a step, and in a run;
* `sensors_step`, `sensors_after`: the sensors of the daemon are those after all that was done with
  them;
* `woken_iff`: **which samples wake the screen**, and that the daemon asks for one pulse for each of
  them and for none else.
-/

import TouchDispatch.Proofs.Daemon.Torch
import TouchDispatch.Proofs.Sensor.Uses

namespace TouchDispatch

open Dialogue

namespace DozeSensors

variable {sensors : DozeSensors} {uses before during : List Use} {opening now : Int}
  {sample : ProximitySample}

/-- A hand that waves, or a phone that leaves a pocket, as far as it is looked for. -/
def Fits (features : DozeFeatures) (delta : Int) : Prop :=
  features.wave = true ∧ delta < 1000 ∨ features.pocket = true ∧ 5000 < delta

/-- What has to have happened for a sample to wake the screen: the display is off since a time at
which the sensor was of use; the sample before was taken since then and is near; this one is far;
and the time between them fits a movement that is looked for now. -/
def Woken (sensors : DozeSensors) (uses : List Use) (sample : ProximitySample) (now : Int) : Prop :=
  ∃ before opening during, Dark uses before opening during ∧ sensors.Listens before ∧
    ∃ last since, lastOf Use.sample? during = some (last, since) ∧
      last.distance < last.maxRange ∧ ¬ sample.distance < sample.maxRange ∧
      Fits (sensors.inForce uses).1 (now - since)

theorem wakes_iff {features : DozeFeatures} {window : ProximityWindow} {near : Bool} :
    wakes features window near now = true ↔
      window.wasNear = true ∧ near = false ∧ Fits features (now - window.lastAt) := by
  unfold wakes Fits DozeFeatures.usesProximity waveMillis pocketMillis
  cases features.wave <;> cases features.pocket <;> cases window.wasNear <;> cases near <;> simp

/-- **A sample wakes the screen exactly if it is woken by its history.** -/
theorem proximity_wakes_iff (window : sensors.window = none) (tiltAt : sensors.tiltAt = none) :
    ((sensors.after uses).proximity sample now).1 = true ↔ sensors.Woken uses sample now := by
  have opened : ∀ {before opening during}, Dark uses before opening during →
      sensors.Listens before →
        (((sensors.after uses).proximity sample now).1 = true ↔
          ∃ last since, lastOf Use.sample? during = some (last, since) ∧
            last.distance < last.maxRange ∧ ¬ sample.distance < sample.maxRange ∧
            Fits (sensors.inForce uses).1 (now - since)) := by
    intro before opening during dark listens
    rw [proximity, window_after_dark dark listens, features_after]
    dsimp only
    rw [wakes_iff]
    cases taken : lastOf Use.sample? during with
    | none => simp
    | some pair =>
      obtain ⟨last, since⟩ := pair
      simp [ofSample, ProximitySample.isNear, and_assoc]
  constructor
  · intro wakes
    rcases lit_or_dark uses with lit | ⟨before, opening, during, dark⟩
    · rw [proximity, (closed_after_lit lit window tiltAt).1] at wakes
      cases wakes
    · by_cases listens : sensors.Listens before
      · exact ⟨before, opening, during, dark, listens, (opened dark listens).mp wakes⟩
      · rw [proximity, window_after_deaf dark listens] at wakes
        cases wakes
  · rintro ⟨before, opening, during, dark, listens, woken⟩
    exact (opened dark listens).mpr woken

end DozeSensors

/-! ### What the daemon does with the sensors -/

open DozeSensors (Use)

namespace Core

/-- What a change of the settings does with the sensors. -/
def configures (core : Core) (change : Settings.Change) : List Use :=
  if change.touches Settings.dozeName || change.touches Settings.proximityCheckName then
    [.configure (Settings.doze core.table) (Settings.proximityCheck core.table)]
  else []

/-- What the daemon does with the sensors in a step. Each time is the one that the clock showed. -/
def uses (core : Core) (entry : Entry) : List Use :=
  match entry.step with
  | .report (.display on) =>
    if on = core.screenOn then []
    else if on then [.displayOn]
    else (clockReadings entry.exchanges).map .displayOff
  | .report (.proximity sample) => (clockReadings entry.exchanges).map (.proximity sample)
  | .report (.tilt triggered) => (clockReadings entry.exchanges).map (.tilt triggered)
  | .report (.settingsChanged change) => core.configures change
  | .deliver listener place =>
    ((core.store.unread listener)[place]?.map core.configures).getD []
  | _ => []

variable {core next : Core} {exchanges : List Exchange}

theorem clockReadings_glance {now : Int} (glance : Glance now exchanges) :
    clockReadings exchanges = [now] := by
  rcases glance with rfl | ⟨sent, rfl⟩
  · rfl
  · rfl

theorem sensors_sampled (core : Core) (sample : ProximitySample) (now : Int) :
    (core.sampled sample now).sensors = core.sensors.next (.proximity sample now) := by
  unfold sampled
  dsimp only
  split <;> rfl

theorem sensors_refreshed (core : Core) (change : Settings.Change) :
    (core.refreshed change).sensors = core.sensors.after (core.configures change) := by
  unfold refreshed configures
  dsimp only
  split <;> rfl

/-- What has to do neither with the sensors nor with the settings leaves the sensors alone. -/
theorem sensors_of_views (copies : next.copies = core.copies) (senses : next.senses = core.senses) :
    next.sensors = core.sensors := by
  simp only [Core.copies, Copies.mk.injEq] at copies
  simp only [Core.senses, Senses.mk.injEq] at senses
  obtain ⟨-, -, -, -, features, check, -⟩ := copies
  obtain ⟨presence, window, tiltAt, near, -⟩ := senses
  calc next.sensors
      = ⟨next.sensors.presence, next.sensors.features, next.sensors.proximityCheck,
          next.sensors.window, next.sensors.tiltAt, next.sensors.near⟩ := rfl
    _ = core.sensors := by rw [presence, features, check, window, tiltAt, near]

theorem sensors_displayChanged {on : Bool} (ends : (core.displayChanged on).Ends exchanges next) :
    next.sensors = core.sensors.after (core.uses ⟨.report (.display on), exchanges⟩) := by
  unfold uses
  dsimp only
  by_cases same : on = core.screenOn
  · rw [same, displayChanged_same] at ends
    obtain ⟨-, rfl⟩ := ends_pure_iff.mp ends
    rw [if_pos same]
    rfl
  · rw [if_neg same]
    cases on with
    | false =>
      obtain ⟨now, first, second, rfl, rfl⟩ :=
        ends_displayOff (Bool.of_not_eq_false (Ne.symm same)) ends
      rfl
    | true =>
      obtain ⟨first, second, rfl, -⟩ :=
        ends_displayOn (Bool.of_not_eq_true (Ne.symm same)) ends
      rfl

/-- **The sensors after a step are those after what it does with them.** -/
theorem sensors_step {step : Step} (ends : (core.step step).Ends exchanges next) :
    next.sensors = core.sensors.after (core.uses ⟨step, exchanges⟩) := by
  have frame := (Core.step_frame core step exchanges next ends).2
  cases step with
  | report event =>
    cases event with
    | torchMode | torchGone | shutdown =>
      exact sensors_of_views (frame.copies nofun) (frame.senses nofun)
    | settingsChanged change =>
      obtain ⟨rfl, -⟩ := ends_settingsChanged (ends_reportChange ends)
      exact sensors_refreshed core change
    | display on =>
      obtain ⟨answer, handled, rfl⟩ := ends_map_iff.mp ends
      obtain ⟨next, changed, rfl⟩ := ends_map_iff.mp handled
      exact sensors_displayChanged changed
    | proximity sample =>
      obtain ⟨answer, handled, rfl⟩ := ends_map_iff.mp ends
      obtain ⟨next, reported, rfl⟩ := ends_map_iff.mp handled
      obtain ⟨now, glance, result⟩ := ends_proximityReported reported
      have sensors : next.sensors = (core.sampled sample now).sensors := by
        rcases result with rfl | rfl
        · rfl
        · rfl
      show next.sensors = core.sensors.after ((clockReadings exchanges).map _)
      rw [sensors, sensors_sampled, clockReadings_glance glance]
      rfl
    | tilt triggered =>
      obtain ⟨answer, handled, rfl⟩ := ends_map_iff.mp ends
      obtain ⟨next, reported, rfl⟩ := ends_map_iff.mp handled
      obtain ⟨now, glance, result⟩ := ends_tiltReported reported
      have sensors : next.sensors = core.sensors.next (.tilt triggered now) := by
        rcases result with rfl | rfl
        · rfl
        · rfl
      show next.sensors = core.sensors.after ((clockReadings exchanges).map _)
      rw [sensors, clockReadings_glance glance]
      rfl
  | deliver listener place =>
    unfold uses
    dsimp only
    cases found : (core.store.unread listener)[place]? with
    | none =>
      obtain ⟨-, rfl⟩ := ends_deliver_none found ends
      rfl
    | some change =>
      obtain ⟨rfl, -⟩ := ends_settingsChanged (ends_deliver_some found ends)
      exact sensors_refreshed _ change
  | settings deed =>
    obtain ⟨-, rfl⟩ := ends_pure_iff.mp ends
    rfl
  | dispatch gesture =>
    have other : (Step.dispatch gesture).part ≠ .keypad ∧
        (Step.dispatch gesture).part ≠ .sensors := by
      rcases gesture with action | position
      · cases action <;> exact ⟨nofun, nofun⟩
      · exact ⟨nofun, nofun⟩
    exact sensors_of_views (frame.copies other.1) (frame.senses other.2)
  | key | take => exact sensors_of_views (frame.copies nofun) (frame.senses nofun)

/-- **The daemon asks for one pulse if a sample wakes the screen**, and for none else. -/
theorem pulses_proximityReported {sample : ProximitySample}
    (ends : (core.step (.report (.proximity sample))).Ends exchanges next) :
    ∃ now, clockReadings exchanges = [now] ∧
      (exchanges.map Exchange.request).count (.perform .pulse) =
        if (core.sensors.proximity sample now).1 then 1 else 0 := by
  obtain ⟨answer, handled, rfl⟩ := ends_map_iff.mp ends
  obtain ⟨next, reported, rfl⟩ := ends_map_iff.mp handled
  obtain ⟨_, now, _, clock, rest, rfl⟩ := ends_bind_iff.mp reported
  rw [ends_now_iff.mp clock]
  change (if (core.sensors.proximity sample now).1 then (core.sampled sample now).pulse
    else return core.sampled sample now : Dialogue Core).Ends _ next at rest
  refine ⟨now, ?_⟩
  by_cases wakes : (core.sensors.proximity sample now).1 = true
  · rw [if_pos wakes] at rest ⊢
    obtain ⟨⟨sent, rfl⟩, -⟩ := ends_pulse rest
    exact ⟨rfl, rfl⟩
  · rw [if_neg wakes] at rest ⊢
    obtain ⟨rfl, -⟩ := ends_pure_iff.mp rest
    exact ⟨rfl, rfl⟩

end Core

namespace Session

variable {σ : Type} (host : Host σ)

/-- What the daemon does with the sensors in the course of a run. -/
def uses (session : Session σ) : List Step → List Use
  | [] => []
  | step :: rest =>
    session.core.uses ⟨step, (session.core.step step).transcript host session.device⟩ ++
      (session.next host step).uses rest

/-- **The sensors of the daemon are those after all that was done with them.** -/
theorem sensors_after (session : Session σ) (steps : List Step) :
    (session.after host steps).core.sensors =
      session.core.sensors.after (session.uses host steps) := by
  induction steps generalizing session with
  | nil => rfl
  | cons step rest ih =>
    have here := Core.sensors_step (ends_run host (session.core.step step) session.device)
    show ((session.next host step).after host rest).core.sensors = _
    rw [ih, uses, DozeSensors.after_append, ← here]
    rfl

end Session

/-- **A sample of the proximity sensor wakes the screen exactly if** the display is off since a time
at which the sensor was of use; a sample was taken since then, and the last one before this is near;
this one is far; and the time between the two is less than a second while waving is looked for, or
more than five seconds while leaving a pocket is. **The daemon asks for one pulse for each such
sample, and for none for any other one.** -/
theorem woken_iff (presence : Presence) (features : DozeFeatures) (proximityCheck near : Bool)
    (uses : List Use) (sample : ProximitySample) (now : Int) {σ : Type} (host : Host σ) (device : σ)
    (disk : Disk) (store : Settings.Store) (switches : Option Switches) (steps : List Step) :
    let fresh : DozeSensors := { presence, features, proximityCheck, near }
    let first := Session.opening host device disk store presence switches
    let session := first.after host steps
    let exchanges :=
      (session.core.step (.report (.proximity sample))).transcript host session.device
    (((fresh.after uses).proximity sample now).1 = true ↔ fresh.Woken uses sample now) ∧
    ∃ time, clockReadings exchanges = [time] ∧
      let woken := first.core.sensors.Woken (first.uses host steps) sample time
      let pulses := (exchanges.map Exchange.request).count (.perform .pulse)
      (woken → pulses = 1) ∧ (¬ woken → pulses = 0) := by
  intro fresh first session exchanges
  obtain ⟨time, shown, pulses⟩ := Core.pulses_proximityReported
    (ends_run host (session.core.step (.report (.proximity sample))) session.device)
  have begun : first.core = Session.begun disk store presence switches :=
    Session.opening_core host device disk store presence switches
  have closed : first.core.sensors.window = none ∧ first.core.sensors.tiltAt = none := by
    rw [begun]
    exact ⟨rfl, rfl⟩
  have wakes : ((session.core.sensors).proximity sample time).1 = true ↔
      first.core.sensors.Woken (first.uses host steps) sample time := by
    rw [Session.sensors_after]
    exact DozeSensors.proximity_wakes_iff closed.1 closed.2
  refine ⟨DozeSensors.proximity_wakes_iff rfl rfl, time, shown, fun woken => ?_, fun idle => ?_⟩
  · exact pulses.trans (if_pos (wakes.mpr woken))
  · exact pulses.trans (if_neg fun same => idle (wakes.mp same))

end TouchDispatch
