/-
**What the torch gesture comes to.**

The gesture has few courses: no rear camera is known or found, a repeat is dropped, or the torch is
told to go on or off.

* `Toggling`: the courses of switching the torch, with all that is exchanged that concerns it and
  with the state of the daemon afterwards;
* `Performing.toggling`, `ends_torchGesture`: the gesture takes one of these courses and is recorded
  at the end.
-/

import TouchDispatch.Proofs.Daemon.Frame
import TouchDispatch.Proofs.Daemon.Performing

namespace TouchDispatch

open Dialogue

/-- The courses of switching the torch. -/
inductive Toggling (core : Core) : List Exchange → Core → Prop
  /-- There is no rear camera. -/
  | missing {search : List Exchange} (sought : Sought core search none) :
      Toggling core search core
  /-- A gesture switched the torch just before. -/
  | dropped {search : List Exchange} {camera : String} (now : Int)
      (sought : Sought core search (some camera))
      (soon : Time.elapsed core.lamp.armedAt now < core.hold.millis) :
      Toggling core (search ++ [⟨.now, now⟩])
        { core with lamp := { core.lamp with camera := some camera } }
  /-- The torch is told to go on or off. -/
  | switched {search aside : List Exchange} {camera : String} (now : Int) (hold : Hold)
      (done : Bool) (sought : Sought core search (some camera))
      (late : ¬ Time.elapsed core.lamp.armedAt now < core.hold.millis)
      (beside : ∀ exchange ∈ aside, Own .other exchange.request)
      (millis : hold.millis = core.hold.millis) :
      Toggling core
        (search ++ (⟨.now, now⟩ ::
          (aside ++ [⟨.perform (.torch camera (!core.lamp.on)), done⟩])))
        { core with
          hold
          lamp := ⟨some camera, if done then !core.lamp.on else core.lamp.on, now⟩
          status := { core.status with
            torchOn := if done then !core.lamp.on else core.status.torchOn } }

variable {core next : Core} {exchanges : List Exchange}

/-- Arming the hold and being felt are no business of the torch. -/
theorem Felt.aside {felt : List Exchange} (feels : Felt core.table felt) (time : Int)
    (locked : Bool) :
    ∀ exchange ∈ core.hold.arming time locked ++ felt, Own .other exchange.request := by
  have armed : ∀ exchange ∈ core.hold.arming time locked, Own .other exchange.request :=
    List.forall_mem_cons.mpr ⟨own_other rfl,
      List.forall_mem_cons.mpr ⟨own_other rfl, List.forall_mem_nil _⟩⟩
  intro exchange member
  rcases List.mem_append.mp member with here | here
  · exact armed exchange here
  · cases feels with
    | click done wanted =>
      obtain rfl := List.mem_singleton.mp here
      exact own_other rfl
    | silent unwanted => cases here

/-- **Switching the torch takes one of three courses.** -/
theorem Performing.toggling (performing : Performing core (.run .torch) exchanges next) :
    Toggling core exchanges next := by
  cases performing with
  | missing sought => exact .missing sought
  | dropped check sought soon => exact .dropped check sought soon
  | switched check time locked done sought late feels =>
    rw [← List.append_assoc (core.hold.arming time locked)]
    exact .switched check _ done sought late (feels.aside time locked) rfl
  | called done calls => cases calls

/-- **The torch gesture switches the torch and is recorded.** -/
theorem ends_torchGesture (ends : (core.step (.dispatch (.run .torch))).Ends exchanges next) :
    ∃ before toggled time, Toggling core before toggled ∧
      exchanges = before ++ [⟨.now, time⟩] ∧
        next = toggled.withStatus (·.recordGesture (.run .torch) time) := by
  have performed : (core.dispatch (.run .torch)).Ends exchanges next := ends
  obtain ⟨before, toggled, time, performing, recorded⟩ := ends_performing performed
  exact ⟨before, toggled, time, performing.toggling, recorded⟩

end TouchDispatch
