/-
**What a report comes to.**

The reports of the display, the sensors and the settings have few courses each:

* `Core.screened`: the daemon with the display on or off and the sensors to match;
* `ends_displayOff`, `ends_displayOn`: the display changes;
* `displayChanged_same`: the display is reported again as it is;
* `Core.sampled`: the daemon with a sample of the proximity sensor taken;
* `ends_proximityReported`, `ends_tiltReported`: a sensor reports;
* `Core.refreshed`: the daemon with the copies that a change of the settings touches taken anew;
* `ends_settingsChanged`: the settings change.
-/

import TouchDispatch.Daemon.Sense
import TouchDispatch.Proofs.Device.Course

namespace TouchDispatch

open Dialogue

namespace Core

variable {core next : Core} {exchanges : List Exchange}

/-! ### The display -/

/-- The daemon with the display on or off, and the sensors listened to as they want. -/
def screened (core : Core) (on : Bool) (sensors : DozeSensors) : Core :=
  { core with
    screenOn := on
    sensors
    status := { core.status with
      screenOn := on
      sensors := { core.status.sensors with
        proximityListening := sensors.listening.proximity
        tiltListening := sensors.listening.tilt.isSome
        proximityNear := !on && core.status.sensors.proximityNear } } }

theorem ends_listen (listening : Listening) (ends : (core.listen listening).Ends exchanges next) :
    ∃ first second, exchanges = [⟨.perform (.listenProximity listening.proximity), first⟩,
        ⟨.perform (.listenTilt listening.tilt), second⟩] ∧
      next = core.withStatus fun status =>
        { status with sensors := { status.sensors with
            proximityListening := listening.proximity
            tiltListening := listening.tilt.isSome } } := by
  obtain ⟨_, first, _, proximity, rest, rfl⟩ := ends_bind_iff.mp ends
  obtain ⟨_, second, _, tilt, final, rfl⟩ := ends_bind_iff.mp rest
  obtain ⟨rfl, rfl⟩ := ends_pure_iff.mp final
  rw [ends_perform_iff.mp proximity, ends_perform_iff.mp tilt]
  exact ⟨first, second, rfl, rfl⟩

theorem displayChanged_same (core : Core) : core.displayChanged core.screenOn = return core :=
  if_pos rfl

/-- **When the display goes off, the windows that are of use open.** -/
theorem ends_displayOff (screen : core.screenOn = true)
    (ends : (core.displayChanged false).Ends exchanges next) :
    ∃ now first second, next = core.screened false (core.sensors.displayOff now) ∧
      exchanges = [⟨.now, now⟩,
        ⟨.perform (.listenProximity (core.sensors.displayOff now).listening.proximity), first⟩,
        ⟨.perform (.listenTilt (core.sensors.displayOff now).listening.tilt), second⟩] := by
  have changed : false ≠ core.screenOn := by
    rw [screen]
    exact Bool.false_ne_true
  unfold displayChanged at ends
  rw [if_neg changed] at ends
  obtain ⟨_, sensors, _, sensed, rest, rfl⟩ := ends_bind_iff.mp ends
  obtain ⟨_, now, _, clock, opened, rfl⟩ := ends_bind_iff.mp sensed
  obtain ⟨rfl, rfl⟩ := ends_pure_iff.mp opened
  obtain ⟨_, listened, _, started, final, rfl⟩ := ends_bind_iff.mp rest
  obtain ⟨first, second, rfl, rfl⟩ := ends_listen _ started
  obtain ⟨rfl, rfl⟩ := ends_pure_iff.mp final
  rw [ends_now_iff.mp clock]
  exact ⟨now, first, second, rfl, rfl⟩

/-- **When the display goes on, all windows close.** -/
theorem ends_displayOn (screen : core.screenOn = false)
    (ends : (core.displayChanged true).Ends exchanges next) :
    ∃ first second, next = core.screened true core.sensors.displayOn ∧
      exchanges = [⟨.perform (.listenProximity false), first⟩,
        ⟨.perform (.listenTilt none), second⟩] := by
  have changed : true ≠ core.screenOn := by
    rw [screen]
    exact Bool.false_ne_true.symm
  unfold displayChanged at ends
  rw [if_neg changed] at ends
  obtain ⟨_, sensors, _, closed, rest, rfl⟩ := ends_bind_iff.mp ends
  obtain ⟨rfl, rfl⟩ := ends_pure_iff.mp closed
  obtain ⟨_, listened, _, stopped, final, rfl⟩ := ends_bind_iff.mp rest
  obtain ⟨first, second, rfl, rfl⟩ := ends_listen _ stopped
  obtain ⟨rfl, rfl⟩ := ends_pure_iff.mp final
  exact ⟨first, second, rfl, rfl⟩

/-! ### The sensors -/

/-- Waking the screen changes nothing but a counter. -/
theorem ends_pulse (ends : core.pulse.Ends exchanges next) :
    (∃ sent, exchanges = [⟨.perform .pulse, sent⟩]) ∧
      (next = core ∨ next = core.withStatus Status.countPulse) := by
  obtain ⟨_, sent, _, pulsed, final, rfl⟩ := ends_bind_iff.mp ends
  rw [ends_perform_iff.mp pulsed]
  cases sent with
  | false =>
    obtain ⟨rfl, rfl⟩ := ends_pure_iff.mp final
    exact ⟨⟨false, rfl⟩, Or.inl rfl⟩
  | true =>
    obtain ⟨rfl, rfl⟩ := ends_pure_iff.mp final
    exact ⟨⟨true, rfl⟩, Or.inr rfl⟩

/-- The daemon with a sample of the proximity sensor taken. -/
def sampled (core : Core) (sample : ProximitySample) (now : Int) : Core :=
  let core := { core with sensors := (core.sensors.proximity sample now).2 }
  if core.sensors.listening.proximity then
    core.withStatus fun status =>
      { status with sensors := { status.sensors with proximityNear := sample.isNear } }
  else core

theorem sampled_closed (closed : core.sensors.window = none) (sample : ProximitySample)
    (now : Int) : core.sampled sample now = core := by
  unfold sampled DozeSensors.proximity DozeSensors.listening
  rw [closed]
  exact if_neg (by rw [closed]; exact Bool.false_ne_true)

theorem sampled_open {window : ProximityWindow} (opened : core.sensors.window = some window)
    (sample : ProximitySample) (now : Int) :
    core.sampled sample now =
      { core with
        sensors := { core.sensors with
          window := some ⟨sample.isNear, now⟩
          near := sample.isNear }
        status := { core.status with
          sensors := { core.status.sensors with proximityNear := sample.isNear } } } := by
  unfold sampled DozeSensors.proximity
  rw [opened]
  rfl

/-- What is exchanged when a sensor reports: the time, and at most a pulse. -/
def Glance (now : Int) (exchanges : List Exchange) : Prop :=
  exchanges = [⟨.now, now⟩] ∨ ∃ sent, exchanges = [⟨.now, now⟩, ⟨.perform .pulse, sent⟩]

theorem ends_proximityReported {sample : ProximitySample}
    (ends : (core.proximityReported sample).Ends exchanges next) :
    ∃ now, Glance now exchanges ∧
      (next = core.sampled sample now ∨
        next = (core.sampled sample now).withStatus Status.countPulse) := by
  obtain ⟨_, now, _, clock, rest, rfl⟩ := ends_bind_iff.mp ends
  rw [ends_now_iff.mp clock]
  change (if (core.sensors.proximity sample now).1 then (core.sampled sample now).pulse
    else return core.sampled sample now : Dialogue Core).Ends _ next at rest
  split at rest
  · obtain ⟨⟨sent, rfl⟩, result⟩ := ends_pulse rest
    exact ⟨now, Or.inr ⟨sent, rfl⟩, result⟩
  · obtain ⟨rfl, rfl⟩ := ends_pure_iff.mp rest
    exact ⟨now, Or.inl rfl, Or.inl rfl⟩

theorem ends_tiltReported {triggered : Bool}
    (ends : (core.tiltReported triggered).Ends exchanges next) :
    ∃ now, Glance now exchanges ∧
      (next = { core with sensors := (core.sensors.tilt triggered now).2 } ∨
        next = { core with sensors := (core.sensors.tilt triggered now).2 }.withStatus
          Status.countPulse) := by
  obtain ⟨_, now, _, clock, rest, rfl⟩ := ends_bind_iff.mp ends
  rw [ends_now_iff.mp clock]
  dsimp only at rest
  split at rest
  · obtain ⟨⟨sent, rfl⟩, result⟩ := ends_pulse rest
    exact ⟨now, Or.inr ⟨sent, rfl⟩, result⟩
  · obtain ⟨rfl, rfl⟩ := ends_pure_iff.mp rest
    exact ⟨now, Or.inl rfl, Or.inl rfl⟩

/-! ### The settings -/

/-- The daemon with every copy that a change touches taken anew. -/
def refreshed (core : Core) (change : Settings.Change) : Core :=
  { core with
    disk := if change.touchesBindings then core.syncSwitches.disk else core.disk
    switches := if change.touchesBindings then core.syncSwitches.switches else core.switches
    keysDisabled :=
      if change.touches Settings.keysDisabledName then Settings.keysDisabled core.table
      else core.keysDisabled
    proximityCheck :=
      if change.touches Settings.proximityCheckName then Settings.proximityCheck core.table
      else core.proximityCheck
    sensors :=
      if change.touches Settings.dozeName || change.touches Settings.proximityCheckName then
        core.sensors.configure (Settings.doze core.table) (Settings.proximityCheck core.table)
      else core.sensors
    status := { core.status with
      keysDisabled :=
        if change.touches Settings.keysDisabledName then Settings.keysDisabled core.table
        else core.status.keysDisabled
      settingsRevision := change.revision
      lastSettingsError := none } }

theorem refreshed_features (core : Core) (change : Settings.Change) :
    (core.refreshed change).sensors.features =
      if change.touches Settings.dozeName || change.touches Settings.proximityCheckName then
        Settings.doze core.table
      else core.sensors.features :=
  apply_ite DozeSensors.features _ _ _

theorem refreshed_sensorCheck (core : Core) (change : Settings.Change) :
    (core.refreshed change).sensors.proximityCheck =
      if change.touches Settings.dozeName || change.touches Settings.proximityCheckName then
        Settings.proximityCheck core.table
      else core.sensors.proximityCheck :=
  apply_ite DozeSensors.proximityCheck _ _ _

/-- The part of a change that key handling takes over. -/
theorem ends_applyChange {change : Settings.Change}
    (ends : (core.applyChange change).Ends exchanges next) :
    ∃ done, exchanges = (if change.touches Settings.keysDisabledName then
        [⟨.perform (.keypad (!Settings.keysDisabled core.table)), done⟩] else []) ∧
      next = { core with
        keysDisabled :=
          if change.touches Settings.keysDisabledName then Settings.keysDisabled core.table
          else core.keysDisabled
        proximityCheck :=
          if change.touches Settings.proximityCheckName then Settings.proximityCheck core.table
          else core.proximityCheck
        status := { core.status with
          keysDisabled :=
            if change.touches Settings.keysDisabledName then Settings.keysDisabled core.table
            else core.status.keysDisabled } } := by
  unfold applyChange at ends
  by_cases keys : change.touches Settings.keysDisabledName = true
  · rw [if_pos keys] at ends
    obtain ⟨_, shown, _, gate, final, rfl⟩ := ends_bind_iff.mp ends
    obtain ⟨_, gated, _, switched, display, rfl⟩ := ends_bind_iff.mp gate
    obtain ⟨_, done, _, keypad, copied, rfl⟩ := ends_bind_iff.mp switched
    obtain ⟨rfl, rfl⟩ := ends_pure_iff.mp copied
    obtain ⟨rfl, rfl⟩ := ends_pure_iff.mp display
    obtain ⟨rfl, rfl⟩ := ends_pure_iff.mp final
    rw [ends_perform_iff.mp keypad]
    refine ⟨done, ?_, ?_⟩
    · rw [if_pos keys]
      rfl
    · simp only [if_pos keys]
      split
      · rfl
      · rfl
  · rw [if_neg keys] at ends
    obtain ⟨_, same, _, kept, final, rfl⟩ := ends_bind_iff.mp ends
    obtain ⟨rfl, rfl⟩ := ends_pure_iff.mp kept
    obtain ⟨rfl, rfl⟩ := ends_pure_iff.mp final
    refine ⟨true, ?_, ?_⟩
    · rw [if_neg keys]
      rfl
    · simp only [if_neg keys]
      split
      · rfl
      · rfl

theorem syncSwitches_switches (core : Core) :
    core.syncSwitches.switches =
      core.switches.map fun panel => (panel.sync core.disk core.table).2.1 := by
  obtain ⟨_, _, _, _, _, _, _, _, _, _, switches⟩ := core
  cases switches with
  | none => rfl
  | some switches => rfl

/-- Setting the switches of the panel looks at nothing but the settings and the files. -/
theorem syncSwitches_with (core : Core) (status : Status) (keysDisabled proximityCheck : Bool)
    (sensors : DozeSensors) :
    { core with status, keysDisabled, proximityCheck, sensors }.syncSwitches =
      { core with
        disk := core.syncSwitches.disk
        switches := core.syncSwitches.switches
        status, keysDisabled, proximityCheck, sensors } := by
  obtain ⟨_, _, _, _, _, _, _, _, _, _, switches⟩ := core
  cases switches with
  | none => rfl
  | some switches => rfl

/-- **A change refreshes the copies that it touches, from the store.** -/
theorem ends_settingsChanged {change : Settings.Change}
    (ends : (core.settingsChanged change).Ends exchanges next) :
    next = core.refreshed change ∧
      ∃ done, exchanges = if change.touches Settings.keysDisabledName then
        [⟨.perform (.keypad (!Settings.keysDisabled core.table)), done⟩] else [] := by
  obtain ⟨_, applied, _, keys, final, rfl⟩ := ends_bind_iff.mp ends
  obtain ⟨done, rfl, rfl⟩ := ends_applyChange keys
  obtain ⟨rfl, rfl⟩ := ends_pure_iff.mp final
  refine ⟨?_, done, List.append_nil _⟩
  unfold refreshed
  by_cases sensed : (change.touches Settings.dozeName ||
      change.touches Settings.proximityCheckName) = true
  · by_cases bindings : change.touchesBindings = true
    · simp only [if_pos sensed, if_pos bindings]
      exact congrArg (withStatus · _) (syncSwitches_with core _ _ _ _)
    · simp only [if_pos sensed, if_neg bindings]
      rfl
  · by_cases bindings : change.touchesBindings = true
    · simp only [if_neg sensed, if_pos bindings]
      exact congrArg (withStatus · _) (syncSwitches_with core _ _ _ _)
    · simp only [if_neg sensed, if_neg bindings]
      rfl

end Core

end TouchDispatch
