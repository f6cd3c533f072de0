/-
**The switches of the panel are on exactly where a gesture does something.**

The panel looks at the bindings by itself to tell which gestures it is to recognise, and the daemon
does so again when a key is let go.

* `Core.Takes`: letting go of the key of a channel comes to a gesture;
* `bound_iff`, `takes_iff`: it does so just if the gesture is heard and its binding is not disabled;
* `recognised_iff_acted_on`: **what the panel is to recognise is what the daemon acts on.**
-/

import TouchDispatch.Panel.Switches
import TouchDispatch.Proofs.Daemon.Drawing

namespace TouchDispatch

open Dialogue

namespace Core

variable {σ : Type} {host : Host σ} {device : σ} {core : Core} {channel : Channel}

/-- Letting go of the key of a channel comes to a gesture. -/
def Takes (core : Core) (host : Host σ) (device : σ) (channel : Channel) : Prop :=
  ∃ gesture, ((core.classify (.release (Key.drawn channel).scanCode)).run host device).1 =
    .gesture gesture

theorem bound_iff :
    (∃ gesture, core.bound channel = .gesture gesture) ↔
      Switches.isOn core.table channel = true := by
  unfold bound Switches.isOn
  cases Settings.binding core.table channel with
  | disabled => exact ⟨nofun, nofun⟩
  | run action => exact ⟨fun _ => rfl, fun _ => ⟨_, rfl⟩⟩

/-- **A drawn gesture other than the circle comes to something** just if it is heard and its binding
is not disabled. -/
theorem takes_iff (other : channel ≠ .circle) (free : core.blocks (.drawn channel) = false) :
    core.Takes host device channel ↔
      (channel.hears.run host device).1 = true ∧ Switches.isOn core.table channel = true := by
  unfold Takes
  rw [classify_release, judge_drawn other free, run_bind, ← bound_iff]
  change (∃ gesture, (if (channel.hears.run host device).1 then core.bound channel
    else .notHandled) = .gesture gesture) ↔ _
  cases (channel.hears.run host device).1 with
  | true =>
    rw [if_pos rfl]
    exact (and_iff_right rfl).symm
  | false =>
    rw [if_neg Bool.false_ne_true]
    exact ⟨nofun, nofun⟩

/-- While music is playing, every gesture is heard. -/
theorem takes_iff_isOn (other : channel ≠ .circle) (free : core.blocks (.drawn channel) = false)
    (playing : (host.answer .musicActive device).1 = true) :
    core.Takes host device channel ↔ Switches.isOn core.table channel = true :=
  (takes_iff other free).trans (and_iff_right (hears_run host device playing))

end Core

/-- **What the panel is to recognise is what the daemon acts on.** Whatever the settings hold, the
switches are to be set so that the one for the circle is on just if letting go of the circle starts
the camera, the one for the V just if letting go of the V comes to a gesture, unless the sensor
blocks it, and the one that the other three share just if letting go of one of them comes to a
gesture while music is playing. -/
theorem recognised_iff_acted_on {σ : Type} (host : Host σ) (device : σ) (core : Core)
    (switches : Switches) :
    ∃ camera flashlight music : Bool,
      switches.targets core.table =
        [(switches.camera, camera), (switches.flashlight, flashlight), (switches.music, music)] ∧
      (camera = true ↔ core.isCameraLaunch (.release (Key.drawn .circle).scanCode) = true) ∧
      (core.blocks (.drawn .v) = false → (flashlight = true ↔ core.Takes host device .v)) ∧
      ((host.answer .musicActive device).1 = true →
        (music = true ↔ ∃ channel ∈ [Channel.twoFingerSwipe, .leftV, .rightV],
          core.Takes host device channel)) := by
  refine ⟨_, _, _, rfl, ?_, fun free => ?_, fun playing => ?_⟩
  · rw [Core.isCameraLaunch_circle]
    rfl
  · have other : Channel.v ≠ .circle := nofun
    have heard : (Channel.v.hears.run host device).1 = true := rfl
    exact ((Core.takes_iff other free).trans (and_iff_right heard)).symm
  · have taken : ∀ channel ∈ [Channel.twoFingerSwipe, .leftV, .rightV],
        (core.Takes host device channel ↔ Switches.isOn core.table channel = true) := by
      intro channel member
      simp only [List.mem_cons, List.not_mem_nil, or_false] at member
      rcases member with rfl | rfl | rfl
      · exact Core.takes_iff_isOn nofun (Core.blocks_unchecked rfl) playing
      · exact Core.takes_iff_isOn nofun (Core.blocks_unchecked rfl) playing
      · exact Core.takes_iff_isOn nofun (Core.blocks_unchecked rfl) playing
    have shared : (∃ channel ∈ [Channel.twoFingerSwipe, .leftV, .rightV],
        core.Takes host device channel) ↔
        ∃ channel ∈ [Channel.twoFingerSwipe, .leftV, .rightV],
          Switches.isOn core.table channel = true :=
      exists_congr fun channel => and_congr_right (taken channel)
    rw [shared]
    simp only [List.mem_cons, List.not_mem_nil, or_false, exists_eq_or_imp, exists_eq_left,
      Bool.or_eq_true, or_assoc]

/-- With the V, the swipe and the right V disabled, blanks around that or not, and a number for the
left V, which stands for an app, the shared switch is to be on because of the left V. -/
theorem recognised_on_bench :
    let table : Settings.Table :=
      [("device_gesture_mapping_v", .text " disabled"),
        ("device_gesture_mapping_two_finger_swipe", .text "disabled"),
        ("device_gesture_mapping_left_v", .number (.whole 7)),
        ("device_gesture_mapping_right_v", .text "disabled  ")]
    let core := Session.begun {} { table } {} none
    let switches : Switches := { camera := ⟨["a"]⟩, flashlight := ⟨["b"]⟩, music := ⟨["c"]⟩ }
    switches.targets core.table = [(⟨["a"]⟩, true), (⟨["b"]⟩, false), (⟨["c"]⟩, true)] ∧
      core.isCameraLaunch (.release (Key.drawn .circle).scanCode) = true ∧
      ¬ core.Takes Bench.host {} .v ∧
      ∃ channel ∈ [Channel.twoFingerSwipe, .leftV, .rightV], core.Takes Bench.host {} channel := by
  intro table core switches
  have listed : switches.targets core.table =
      [(⟨["a"]⟩, true), (⟨["b"]⟩, false), (⟨["c"]⟩, true)] := by decide +kernel
  obtain ⟨camera, flashlight, music, same, circle, v, shared⟩ :=
    recognised_iff_acted_on Bench.host {} core switches
  rw [listed] at same
  simp only [List.cons.injEq, Prod.mk.injEq] at same
  obtain ⟨⟨_, rfl⟩, ⟨_, rfl⟩, ⟨_, rfl⟩, _⟩ := same
  refine ⟨listed, circle.mp rfl, fun taken => ?_, (shared rfl).mp rfl⟩
  cases (v rfl).mpr taken

end TouchDispatch
