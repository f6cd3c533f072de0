/-
**A key is blocked exactly while something covers the proximity sensor.**

The key is judged by a reading that the sensors keep. What that reading is follows from what was
reported since the display went off last:

* `Opened`: the display went off, the proximity sensor was listened to from then on, and the display
  has not come on since;
* `Covered`: the last sample since then is a near one;
* `Tracked`: the windows and the reading are what the journal says;
* `tracked_step`: every step keeps that;
* `blocked_iff_covered`: **what is blocked, and that blocking counts a key and does nothing else.**
-/

import TouchDispatch.Device.Bench
import TouchDispatch.Proofs.Daemon.Agreement

namespace TouchDispatch

open Dialogue

/-! ### What the journal says -/

/-- What a step reports of the display. -/
def Step.display? : Step → Option Bool
  | .report (.display on) => some on
  | _ => none

/-- The sample of the proximity sensor that a step reports. -/
def Step.sample? : Step → Option ProximitySample
  | .report (.proximity sample) => some sample
  | _ => none

/-- What was reported last of one kind. -/
def lastReport {α : Type} (kind : Step → Option α) (journal : List Entry) : Option α :=
  (journal.filterMap fun entry => kind entry.step).getLast?

/-- Whether the display is on, as it was reported last; it is on at first. -/
def lastDisplay (journal : List Entry) : Bool :=
  (lastReport Step.display? journal).getD true

/-- The display went off, and the proximity sensor was to be listened to. `after` is what has
happened since, and the display has not come on in its course. -/
def Opened (journal after : List Entry) : Prop :=
  ∃ before off, journal = before ++ off :: after ∧ lastDisplay before = true ∧
    off.step = .report (.display false) ∧ true ∈ asked Request.proximity? off.exchanges ∧
    ∀ entry ∈ after, entry.step ≠ .report (.display true)

/-- The last sample of some entries is a near one. -/
def Near (after : List Entry) : Prop :=
  ∃ sample, lastReport Step.sample? after = some sample ∧ sample.distance < sample.maxRange

/-- The last sample since the display went off is a near one. -/
def Covered (journal : List Entry) : Prop :=
  ∃ after, Opened journal after ∧ Near after

theorem lastReport_concat {α : Type} (kind : Step → Option α) (journal : List Entry)
    (entry : Entry) :
    lastReport kind (journal ++ [entry]) = (kind entry.step).or (lastReport kind journal) := by
  unfold lastReport
  cases told : kind entry.step with
  | none => simp [told]
  | some report => simp [told]

theorem opened_concat {journal after : List Entry} {entry : Entry} :
    Opened (journal ++ [entry]) after ↔
      (after = [] ∧ lastDisplay journal = true ∧ entry.step = .report (.display false) ∧
        true ∈ asked Request.proximity? entry.exchanges) ∨
      ∃ earlier, after = earlier ++ [entry] ∧ Opened journal earlier ∧
        entry.step ≠ .report (.display true) := by
  constructor
  · rintro ⟨before, off, split, lit, wentOff, opened, dark⟩
    rcases List.eq_nil_or_concat after with rfl | ⟨earlier, last, rfl⟩
    · obtain ⟨rfl, same⟩ := List.append_inj' split rfl
      obtain rfl := List.singleton_inj.mp same
      exact Or.inl ⟨rfl, lit, wentOff, opened⟩
    · rw [List.concat_eq_append] at split dark ⊢
      rw [← List.cons_append, ← List.append_assoc] at split
      obtain ⟨rfl, same⟩ := List.append_inj' split rfl
      obtain rfl := List.singleton_inj.mp same
      refine Or.inr ⟨earlier, rfl, ⟨before, off, rfl, lit, wentOff, opened, ?_⟩, ?_⟩
      · exact fun entry member => dark entry (List.mem_append_left _ member)
      · exact dark _ (List.mem_append_right _ (List.mem_singleton_self _))
  · rintro (⟨rfl, lit, wentOff, opened⟩ | ⟨earlier, rfl, opened, still⟩)
    · exact ⟨journal, entry, rfl, lit, wentOff, opened, List.forall_mem_nil _⟩
    · obtain ⟨before, off, rfl, lit, wentOff, opened, dark⟩ := opened
      refine ⟨before, off, ?_, lit, wentOff, opened, fun other member => ?_⟩
      · rw [List.append_assoc, List.cons_append]
      · rcases List.mem_append.mp member with here | here
        · exact dark other here
        · rw [List.mem_singleton.mp here]
          exact still

/-! ### What the sensors know -/

/-- The display, the window of the proximity sensor and its reading are what the journal says. -/
structure Tracked (journal : List Entry) (core : Core) : Prop where
  display : core.screenOn = lastDisplay journal
  window : core.sensors.window.isSome = true ↔ ∃ after, Opened journal after
  near : ∀ after, Opened journal after → (core.sensors.near = true ↔ Near after)

section Steps

variable {presence : Presence} {earlier : List Exchange} {journal : List Entry} {entry : Entry}
  {core next : Core}

/-- **The reading says whether something covers the sensor.** -/
theorem Tracked.covered_iff (tracked : Tracked journal core)
    (agreed : Agreed presence earlier core) : core.sensors.near = true ↔ Covered journal := by
  constructor
  · intro near
    -- A reading without a window would be far.
    have opened : core.sensors.window.isSome = true := by
      rw [Option.isSome_iff_ne_none]
      intro closed
      rw [agreed.closedFar closed] at near
      cases near
    obtain ⟨after, opened⟩ := tracked.window.mp opened
    exact ⟨after, opened, (tracked.near after opened).mp near⟩
  · rintro ⟨after, opened, near⟩
    exact (tracked.near after opened).mpr near

/-- What opens no window, closes none and is no sample leaves everything as it was. -/
theorem Tracked.kept (tracked : Tracked journal core)
    (display : next.screenOn = lastDisplay (journal ++ [entry]))
    (notOff : lastDisplay journal = true → entry.step ≠ .report (.display false))
    (notOn : core.sensors.window.isSome = true → entry.step ≠ .report (.display true))
    (sample : entry.step.sample? = none) (window : next.sensors.window = core.sensors.window)
    (near : next.sensors.near = core.sensors.near) : Tracked (journal ++ [entry]) next := by
  constructor
  case display => exact display
  case window =>
    rw [window]
    constructor
    · intro some
      obtain ⟨after, opened⟩ := tracked.window.mp some
      exact ⟨after ++ [entry], opened_concat.mpr (Or.inr ⟨after, rfl, opened, notOn some⟩)⟩
    · rintro ⟨after, opened⟩
      rcases opened_concat.mp opened with ⟨_, lit, off, _⟩ | ⟨earlier, _, opened, _⟩
      · exact absurd off (notOff lit)
      · exact tracked.window.mpr ⟨earlier, opened⟩
  case near =>
    intro after opened
    rcases opened_concat.mp opened with ⟨_, lit, off, _⟩ | ⟨earlier, rfl, opened, _⟩
    · exact absurd off (notOff lit)
    · unfold Near
      rw [near, lastReport_concat, sample]
      exact tracked.near earlier opened

/-- Most steps report neither the display nor a sample. -/
theorem Tracked.silent (tracked : Tracked journal core) (display : entry.step.display? = none)
    (sample : entry.step.sample? = none) (screenOn : next.screenOn = core.screenOn)
    (window : next.sensors.window = core.sensors.window)
    (near : next.sensors.near = core.sensors.near) : Tracked (journal ++ [entry]) next := by
  have dark : ∀ on, entry.step ≠ .report (.display on) := by
    intro on same
    rw [same] at display
    cases display
  refine tracked.kept ?_ (fun _ => dark false) (fun _ => dark true) sample window near
  unfold lastDisplay
  rw [screenOn, lastReport_concat, display]
  exact tracked.display

theorem Tracked.display_step (tracked : Tracked journal core)
    (agreed : Agreed presence earlier core) {on : Bool} (step : entry.step = .report (.display on))
    (ends : (core.displayChanged on).Ends entry.exchanges next) :
    Tracked (journal ++ [entry]) next := by
  have shown : lastDisplay (journal ++ [entry]) = on := by
    unfold lastDisplay
    rw [lastReport_concat, step]
    rfl
  by_cases same : on = core.screenOn
  · rw [same, Core.displayChanged_same] at ends
    obtain ⟨_, rfl⟩ := ends_pure_iff.mp ends
    refine tracked.kept (by rw [shown, same]) ?_ ?_ (by rw [step]; rfl) rfl rfl
    · rintro lit off
      rw [off] at step
      cases step
      rw [tracked.display, lit] at same
      cases same
    · rintro opened back
      rw [back] at step
      cases step
      rw [(agreed.lit same.symm).1] at opened
      cases opened
  · cases on with
    | false =>
      have lit : core.screenOn = true := Bool.of_not_eq_false (Ne.symm same)
      obtain ⟨now, first, second, rfl, exchanges⟩ := Core.ends_displayOff lit ends
      have closed : ¬ ∃ after, Opened journal after := by
        rw [← tracked.window, (agreed.lit lit).1]
        exact Bool.false_ne_true
      have requests : asked Request.proximity? entry.exchanges =
          [(core.sensors.displayOff now).listening.proximity] := by
        rw [exchanges]
        rfl
      -- With the display on no window was open, so none goes on from before.
      have opened : ∀ after, Opened (journal ++ [entry]) after ↔
          after = [] ∧ (core.sensors.displayOff now).window.isSome = true := by
        intro after
        rw [opened_concat, requests, List.mem_singleton, ← tracked.display]
        constructor
        · rintro (⟨rfl, _, _, opens⟩ | ⟨before, _, opened, _⟩)
          · exact ⟨rfl, opens.symm⟩
          · exact absurd ⟨before, opened⟩ closed
        · rintro ⟨rfl, opens⟩
          exact Or.inl ⟨rfl, lit, step, opens.symm⟩
      constructor
      case display => exact shown.symm
      case window =>
        constructor
        · exact fun opens => ⟨[], (opened []).mpr ⟨rfl, opens⟩⟩
        · rintro ⟨after, opens⟩
          exact ((opened after).mp opens).2
      case near =>
        intro after opens
        obtain ⟨rfl, _⟩ := (opened after).mp opens
        have far : core.sensors.near = false := agreed.closedFar (agreed.lit lit).1
        constructor
        · intro near
          cases far.symm.trans near
        · rintro ⟨sample, taken, _⟩
          cases taken
    | true =>
      have dark : core.screenOn = false := Bool.of_not_eq_true (Ne.symm same)
      obtain ⟨first, second, rfl, _⟩ := Core.ends_displayOn dark ends
      have closed : ∀ after, ¬ Opened (journal ++ [entry]) after := by
        intro after opened
        rcases opened_concat.mp opened with ⟨_, _, off, _⟩ | ⟨_, _, _, still⟩
        · rw [step] at off
          cases off
        · exact still step
      constructor
      case display => exact shown.symm
      case window => exact ⟨nofun, fun ⟨after, opened⟩ => absurd opened (closed after)⟩
      case near => exact fun after opened => absurd opened (closed after)

theorem Tracked.sample_step (tracked : Tracked journal core) {sample : ProximitySample} {now : Int}
    (step : entry.step = .report (.proximity sample))
    (senses : next.senses = (core.sampled sample now).senses) :
    Tracked (journal ++ [entry]) next := by
  simp only [Core.senses, Senses.mk.injEq] at senses
  obtain ⟨_, window, _, near, screenOn, _, _⟩ := senses
  have display : lastDisplay (journal ++ [entry]) = lastDisplay journal := by
    unfold lastDisplay
    rw [lastReport_concat, step]
    rfl
  have goesOn : ∀ after, Opened (journal ++ [entry]) after →
      ∃ earlier, after = earlier ++ [entry] ∧ Opened journal earlier := by
    intro after opened
    rcases opened_concat.mp opened with ⟨_, _, off, _⟩ | ⟨earlier, rfl, opened, _⟩
    · rw [step] at off
      cases off
    · exact ⟨earlier, rfl, opened⟩
  cases known : core.sensors.window with
  | none =>
    rw [Core.sampled_closed known] at window near screenOn
    have closed : ∀ after, ¬ Opened (journal ++ [entry]) after := by
      intro after opened
      obtain ⟨before, _, opened⟩ := goesOn after opened
      have some := tracked.window.mpr ⟨before, opened⟩
      rw [known] at some
      cases some
    constructor
    case display => rw [screenOn, display, tracked.display]
    case window =>
      rw [window, known]
      constructor
      · intro opens
        cases opens
      · rintro ⟨after, opened⟩
        exact absurd opened (closed after)
    case near => exact fun after opened => absurd opened (closed after)
  | some before =>
    rw [Core.sampled_open known] at window near screenOn
    obtain ⟨after, opened⟩ := tracked.window.mp (by rw [known]; rfl)
    have still : entry.step ≠ .report (.display true) := by
      rw [step]
      intro display
      cases display
    constructor
    case display => rw [screenOn, display, ← tracked.display]
    case window =>
      rw [window]
      exact ⟨fun _ => ⟨_, opened_concat.mpr (Or.inr ⟨after, rfl, opened, still⟩)⟩, fun _ => rfl⟩
    case near =>
      intro later opened
      obtain ⟨earlier, rfl, _⟩ := goesOn later opened
      have last : lastReport Step.sample? (earlier ++ [entry]) = some sample := by
        rw [lastReport_concat, step]
        rfl
      rw [near]
      constructor
      · exact fun covers => ⟨sample, last, of_decide_eq_true covers⟩
      · rintro ⟨same, taken, less⟩
        obtain rfl := Option.some.inj (last.symm.trans taken)
        exact decide_eq_true less

theorem tilt_keeps {exchanges : List Exchange} {triggered : Bool}
    (ends : (core.tiltReported triggered).Ends exchanges next) :
    next.screenOn = core.screenOn ∧ next.sensors.window = core.sensors.window ∧
      next.sensors.near = core.sensors.near := by
  obtain ⟨now, _, result⟩ := Core.ends_tiltReported ends
  have sensors : (core.sensors.tilt triggered now).2.window = core.sensors.window ∧
      (core.sensors.tilt triggered now).2.near = core.sensors.near := by
    unfold DozeSensors.tilt
    split
    · exact ⟨rfl, rfl⟩
    · split
      · exact ⟨rfl, rfl⟩
      · exact ⟨rfl, rfl⟩
  rcases result with rfl | rfl
  · exact ⟨rfl, sensors⟩
  · exact ⟨rfl, sensors⟩

/-- **Every step keeps what the sensors know in line with the journal.** -/
theorem tracked_step (tracked : Tracked journal core) (agreed : Agreed presence earlier core)
    (ends : (core.step entry.step).Ends entry.exchanges next) :
    Tracked (journal ++ [entry]) next := by
  by_cases sensed : entry.step.part = .sensors
  · obtain ⟨event, step, part⟩ := Step.part_eq_sensors sensed
    rw [step] at ends
    obtain ⟨answer, handled, rfl⟩ := ends_map_iff.mp ends
    cases event with
    | display on =>
      obtain ⟨next, changed, rfl⟩ := ends_map_iff.mp handled
      exact tracked.display_step agreed step changed
    | proximity sample =>
      obtain ⟨next, reported, rfl⟩ := ends_map_iff.mp handled
      obtain ⟨now, _, rfl | rfl⟩ := Core.ends_proximityReported reported
      · exact tracked.sample_step step rfl
      · exact tracked.sample_step step rfl
    | tilt triggered =>
      obtain ⟨next, reported, rfl⟩ := ends_map_iff.mp handled
      have ⟨screenOn, window, near⟩ := tilt_keeps reported
      refine tracked.silent ?_ ?_ screenOn window near
      · rw [step]
        rfl
      · rw [step]
        rfl
    | torchMode | torchGone | settingsChanged | shutdown => cases part
  · have senses := (Core.step_frame core entry.step entry.exchanges next ends).2.senses sensed
    simp only [Core.senses, Senses.mk.injEq] at senses
    obtain ⟨_, window, _, near, screenOn, _, _⟩ := senses
    refine tracked.silent ?_ ?_ screenOn window near
    · unfold Step.display?
      split
      · next same =>
        rw [same] at sensed
        exact absurd rfl sensed
      · rfl
    · unfold Step.sample?
      split
      · next same =>
        rw [same] at sensed
        exact absurd rfl sensed
      · rfl

/-- With the display on nothing has been reported that could cover the sensor. -/
theorem tracked_begun {disk : Disk} {store : Settings.Store} {switches : Option Switches} :
    Tracked [] (Session.begun disk store presence switches) := by
  have closed : ∀ after, ¬ Opened [] after := by
    rintro after ⟨before, off, split, _⟩
    cases List.append_eq_nil_iff.mp split.symm |>.2
  constructor
  case display => rfl
  case window => exact ⟨nofun, fun ⟨after, opened⟩ => absurd opened (closed after)⟩
  case near => exact fun after opened => absurd opened (closed after)

end Steps

/-- What the sensors know is in line with the journal throughout a run. -/
theorem tracked_after {σ : Type} (host : Host σ) (device : σ) (disk : Disk) (store : Settings.Store)
    (presence : Presence) (switches : Option Switches) (steps : List Step) :
    let first := Session.opening host device disk store presence switches
    Tracked (first.journal host steps) (first.after host steps).core := by
  intro first
  induction steps using List.reverseRec with
  | nil =>
    show Tracked [] first.core
    rw [Session.opening_core]
    exact tracked_begun
  | append_singleton steps step ih =>
    have agreed := agreed_after host device disk store presence switches steps
    rw [Session.journal_concat, Session.after_concat]
    exact tracked_step ih agreed (ends_run host _ _)

/-! ### Keys -/

section Keys

variable {core : Core} {event : KeyEvent} {key : Key}

theorem bound_ne_blocked (core : Core) (channel : Channel) : core.bound channel ≠ .blocked := by
  unfold Core.bound
  split
  · exact nofun
  · exact nofun

theorem judge_of_blocks (blocks : core.blocks key = true) : core.judge key = return .blocked := by
  unfold Core.judge
  split
  · cases blocks
  · cases blocks
  · rw [if_pos blocks]
  · rw [if_pos blocks]
  · rw [if_pos blocks]
  · cases blocks
  · cases blocks
  · cases blocks

theorem judge_of_not_blocks (free : ¬ core.blocks key = true) :
    (core.judge key).Ensures (fun _ => True) (· ≠ .blocked) := by
  have playing : ∀ channel,
      (do return if ← Dialogue.musicActive then core.bound channel else .notHandled :
        Dialogue Verdict).Ensures (fun _ => True) (· ≠ .blocked) := by
    intro channel
    refine .bind (.musicActive trivial) fun active _ => .pure ?_
    split
    · exact bound_ne_blocked core channel
    · exact nofun
  unfold Core.judge
  split
  · exact .pure nofun
  · exact .pure nofun
  · rw [if_neg free]
    exact .pure nofun
  · rw [if_neg free]
    exact .pure nofun
  · rw [if_neg free]
    exact .pure (bound_ne_blocked core .v)
  · exact .pure (bound_ne_blocked core .twoFingerSwipe)
  · exact playing .leftV
  · exact playing .rightV

/-- A key event is blocked if it lets go of a key that is blocked, and not else. -/
theorem classify_blocked_iff {exchanges : List Exchange} {verdict : Verdict}
    (ends : (core.classify event).Ends exchanges verdict) :
    verdict = .blocked ↔
      event.isRelease = true ∧ ∃ key, event.key? = some key ∧ core.blocks key = true := by
  unfold Core.classify at ends
  by_cases release : event.isRelease = true
  · rw [if_pos release] at ends
    cases found : event.key? with
    | none =>
      rw [found] at ends
      obtain ⟨-, rfl⟩ := ends_pure_iff.mp ends
      exact ⟨nofun, fun ⟨_, _, impossible, _⟩ => nomatch impossible⟩
    | some key =>
      rw [found] at ends
      change (core.judge key).Ends exchanges verdict at ends
      by_cases blocks : core.blocks key = true
      · rw [judge_of_blocks blocks] at ends
        exact ⟨fun _ => ⟨release, key, rfl, blocks⟩, fun _ => (ends_pure_iff.mp ends).2⟩
      · have other : verdict ≠ .blocked := (judge_of_not_blocks blocks exchanges verdict ends).2
        refine ⟨fun same => absurd same other, ?_⟩
        rintro ⟨_, same, equal, blocked⟩
        obtain rfl := Option.some.inj equal
        exact absurd blocked blocks
  · rw [if_neg release] at ends
    obtain ⟨-, rfl⟩ := ends_pure_iff.mp ends
    exact ⟨nofun, fun ⟨same, _⟩ => absurd same release⟩

/-- A blocked key is counted, and that is all. -/
theorem handleKey_of_blocks (release : event.isRelease = true) (found : event.key? = some key)
    (blocks : core.blocks key = true) :
    core.handleKey event = return (true, core.withStatus Status.countBlocked) := by
  have drawn : ¬ core.swallows event.code = true := by
    change ¬ (core.keysDisabled && event.key?.any Key.isNavigation) = true
    rw [found]
    cases key with
    | navigation => cases blocks
    | _ =>
      show ¬ (core.keysDisabled && false) = true
      rw [Bool.and_false]
      exact Bool.false_ne_true
  have judged : core.classify event = return .blocked := by
    unfold Core.classify
    rw [if_pos release, found]
    exact judge_of_blocks blocks
  unfold Core.handleKey
  rw [if_neg drawn, judged]
  rfl

theorem blocks_iff :
    core.blocks key = true ↔
      (key = .drawn .circle ∨ key = .drawn .v ∨ key = .doubleTap) ∧ core.proximityCheck = true ∧
        core.sensors.near = true := by
  have checked : key.isProximityChecked = true ↔
      key = .drawn .circle ∨ key = .drawn .v ∨ key = .doubleTap := by
    rcases key with (_ | _ | _ | _ | _) | _ | _ | _ <;> simp [Key.isProximityChecked]
  unfold Core.blocks
  rw [Bool.and_eq_true, Bool.and_eq_true, checked, and_assoc]

end Keys

/-! ### Numbers that are none -/

open Float.Model (UnpackedFloat) in
theorem compare_of_nan {first second : UnpackedFloat}
    (nan : first.isNaN = true ∨ second.isNaN = true) : first.compare second = none := by
  rcases nan with nan | nan
  · cases first with
    | notANumber => rfl
    | _ => cases nan
  · cases second with
    | notANumber => cases first <;> rfl
    | _ => cases nan

theorem not_lt_of_nan {first second : Float32}
    (nan : first.isNaN = true ∨ second.isNaN = true) : ¬ first < second := by
  intro less
  have below : first.toModel < second.toModel := of_decide_eq_true less
  have ordered : first.toModel.unpack.compare second.toModel.unpack = some .lt := eq_of_beq below
  rw [compare_of_nan nan] at ordered
  cases ordered

end TouchDispatch
