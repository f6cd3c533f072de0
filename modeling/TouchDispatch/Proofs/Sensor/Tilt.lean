/-
**A tilted phone wakes at most every two and a half seconds, and is not kept from it longer.**

The window of the tilt sensor is thrown away whenever the display changes, so nothing that is kept
there speaks of the wake before. What carries the distance over is that a window opens no earlier
than the last wake, and accepts nothing until its own time is over:

* `tiltWakes`: when samples of the tilt sensor woke the screen in the course of some uses;
* `tilt_wakes_iff`: a sample wakes if it is triggered and is accepted;
* `tiltWakes_later`: nothing wakes soon after a time that all windows start from;
* `tilt_paced`: **what wakes, when it does not, and that two wakes are apart.**
-/

import TouchDispatch.Proofs.Sensor.Uses

namespace TouchDispatch.DozeSensors

variable {sensors : DozeSensors} {uses before during : List Use} {opening now : Int}
  {triggered : Bool}

/-- When samples of the tilt sensor wake the screen in the course of some uses. -/
def tiltWakes (sensors : DozeSensors) : List Use → List Int
  | [] => []
  | .tilt triggered now :: rest =>
    (if (sensors.tilt triggered now).1 then [now] else []) ++
      (sensors.next (.tilt triggered now)).tiltWakes rest
  | use :: rest => (sensors.next use).tiltWakes rest

/-- When things are done, as far as the sensors are told. -/
def times (uses : List Use) : List Int :=
  uses.filterMap Use.time?

/-! ### One sample -/

/-- A sample wakes the screen if it is triggered, and the window is open and has rested. -/
theorem tilt_wakes_iff :
    (sensors.tilt triggered now).1 = true ↔
      triggered = true ∧ ∃ since, sensors.tiltAt = some since ∧ since + tiltMillis ≤ now := by
  rw [tilt]
  cases opened : sensors.tiltAt with
  | none => simp
  | some since =>
    by_cases soon : now - since < tiltMillis
    · have early : ¬ since + tiltMillis ≤ now := by omega
      simp [soon, early]
    · have late : since + tiltMillis ≤ now := by omega
      simp [soon, late]

/-- A sample that wakes the screen moves the window on. -/
theorem tiltAt_of_wakes (wakes : (sensors.tilt triggered now).1 = true) :
    (sensors.next (.tilt triggered now)).tiltAt = some now := by
  obtain ⟨-, since, opened, late⟩ := tilt_wakes_iff.mp wakes
  have rested : ¬ now - since < tiltMillis := by omega
  rw [next, tilt, opened]
  dsimp only
  rw [if_neg rested]

/-- A window that is open since some time, or opened later, stays so. -/
theorem tiltAt_next_ge {time : Int} (use : Use)
    (kept : ∀ since, sensors.tiltAt = some since → time ≤ since)
    (later : ∀ now, use.time? = some now → time ≤ now) :
    ∀ since, (sensors.next use).tiltAt = some since → time ≤ since := by
  intro since moved
  cases use with
  | displayOff now =>
    rw [next, displayOff] at moved
    dsimp only at moved
    split at moved
    · exact Option.some.inj moved ▸ later now rfl
    · cases moved
  | displayOn => cases moved
  | configure => exact kept since moved
  | proximity sample now =>
    rw [next, proximity] at moved
    split at moved <;> exact kept since moved
  | tilt triggered now =>
    rw [next, tilt] at moved
    split at moved
    · exact kept since moved
    · split at moved
      · exact kept since moved
      · exact Option.some.inj moved ▸ later now rfl

/-! ### Runs -/

/-- **Nothing wakes soon after a time that all windows start from**, neither in the window that is
open nor in those that open later. -/
theorem tiltWakes_later {time : Int} (uses : List Use)
    (kept : ∀ since, sensors.tiltAt = some since → time ≤ since)
    (later : ∀ now ∈ times uses, time ≤ now) :
    ∀ wake ∈ sensors.tiltWakes uses, time + tiltMillis ≤ wake := by
  induction uses generalizing sensors with
  | nil => exact List.forall_mem_nil _
  | cons use uses ih =>
    intro wake member
    have after : ∀ now ∈ times uses, time ≤ now := fun now found => later now <| by
      rw [times, List.filterMap_cons]
      split
      · exact found
      · exact List.mem_cons_of_mem _ found
    have here : ∀ now, use.time? = some now → time ≤ now := fun now shown => later now <| by
      rw [times, List.filterMap_cons, shown]
      exact List.mem_cons_self
    have rest : ∀ wake ∈ (sensors.next use).tiltWakes uses, time + tiltMillis ≤ wake :=
      ih (tiltAt_next_ge use kept here) after
    cases use with
    | displayOff | displayOn | proximity | configure => exact rest wake member
    | tilt triggered now =>
      rcases List.mem_append.mp member with first | further
      · split at first
        · next wakes =>
          obtain ⟨-, since, opened, late⟩ := tilt_wakes_iff.mp wakes
          have := kept since opened
          rw [List.mem_singleton.mp first]
          omega
        · cases first
      · exact rest wake further

/-- **Two wakes are apart**, whatever the display did between them. -/
theorem tiltWakes_apart (steady : (times uses).Pairwise (· ≤ ·)) :
    (sensors.tiltWakes uses).Pairwise fun earlier later => earlier + tiltMillis ≤ later := by
  induction uses generalizing sensors with
  | nil => exact List.Pairwise.nil
  | cons use uses ih =>
    have after : (times uses).Pairwise (· ≤ ·) := by
      rw [times, List.filterMap_cons] at steady
      split at steady
      · exact steady
      · exact steady.of_cons
    cases use with
    | displayOff | displayOn | proximity | configure => exact ih after
    | tilt triggered now =>
      refine List.pairwise_append.mpr ⟨?_, ih after, fun earlier first later further => ?_⟩
      · split
        · exact List.pairwise_singleton _ _
        · exact List.Pairwise.nil
      · split at first
        · next wakes =>
          rw [List.mem_singleton.mp first]
          refine tiltWakes_later uses (fun since opened => ?_) ?_ later further
          · rw [tiltAt_of_wakes wakes] at opened
            exact Int.le_of_eq (Option.some.inj opened)
          · exact fun time member => List.rel_of_pairwise_cons steady member
        · cases first

/-! ### The whole -/

/-- **A tilted phone wakes the screen at most every two and a half seconds.** With a clock that
never goes back, two wakes are at least that far apart, whatever the display did between them. A sample
wakes only while a window is open, that is since the display went off with the sensor of use, and
not soon after that. In an open window **a triggered sample wakes exactly if** two and a half
seconds have passed since the window was opened and since each sample that was accepted in it. -/
theorem tilt_paced (presence : Presence) (features : DozeFeatures) (proximityCheck near : Bool)
    (uses : List Use) (steady : (times uses).Pairwise (· ≤ ·)) :
    let fresh : DozeSensors := { presence, features, proximityCheck, near }
    (fresh.tiltWakes uses).Pairwise (fun earlier later => earlier + 2500 ≤ later) ∧
    ∀ before triggered now rest, uses = before ++ .tilt triggered now :: rest →
      let wakes := ((fresh.after before).tilt triggered now).1
      (wakes = true →
        (∃ earlier opening during, Dark before earlier opening during ∧ fresh.Heeds earlier) ∧
          ∀ off, lastOf Use.off? before = some off → off + 2500 ≤ now) ∧
      ∀ earlier opening during, Dark before earlier opening during → fresh.Heeds earlier →
        triggered = true →
          (wakes = true ↔
            ∀ time ∈ opening :: accepted opening during, time + 2500 ≤ now) := by
  intro fresh
  refine ⟨tiltWakes_apart steady, ?_⟩
  intro before triggered now rest _ wakes
  have open_iff : ∀ {earlier opening during}, Dark before earlier opening during →
      fresh.Heeds earlier →
        (wakes = true ↔ triggered = true ∧
          ∀ time ∈ opening :: accepted opening during, time + tiltMillis ≤ now) := by
    intro earlier opening during dark heeds
    rw [← lastAccepted_le_iff, tilt_wakes_iff, tiltAt_after_dark dark heeds]
    simp
  refine ⟨fun woken => ?_, fun earlier opening during dark heeds tilted => ?_⟩
  · obtain ⟨-, since, opened, -⟩ := tilt_wakes_iff.mp woken
    rcases lit_or_dark before with lit | ⟨earlier, opening, during, dark⟩
    · rw [(closed_after_lit lit rfl rfl).2] at opened
      cases opened
    · by_cases heeds : fresh.Heeds earlier
      · refine ⟨⟨earlier, opening, during, dark, heeds⟩, fun off last => ?_⟩
        obtain rfl := Option.some.inj (dark.off.symm.trans last)
        exact ((open_iff dark heeds).mp woken).2 opening List.mem_cons_self
      · rw [tiltAt_after_deaf dark heeds] at opened
        cases opened
  · rw [open_iff dark heeds]
    exact and_iff_right tilted

/-- Two wakes with the display on and off again between them, and a sample that is accepted without
being triggered. -/
theorem tilt_paced_twice :
    let fresh : DozeSensors :=
      { presence := { tilt := true }, features := { tilt := true }, proximityCheck := false }
    let uses : List Use :=
      [.displayOff 0, .tilt true 2499, .tilt true 2500, .displayOn, .displayOff 2600,
        .tilt true 5000, .tilt false 5100, .tilt true 7599, .tilt true 7600]
    (times uses).Pairwise (· ≤ ·) ∧ fresh.tiltWakes uses = [2500, 7600] ∧
      (fresh.tiltWakes uses).Pairwise fun earlier later => earlier + 2500 ≤ later :=
  ⟨by decide, by decide, (tilt_paced { tilt := true } { tilt := true } false false _ (by decide)).1⟩

end TouchDispatch.DozeSensors
