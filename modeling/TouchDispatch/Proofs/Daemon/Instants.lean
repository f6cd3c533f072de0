/-
**No instant leaves the 64-bit range.**

Instants are whole numbers here, and their sums and differences are exact. In 64 bits they are so as
long as none leaves the range, for which a clock that starts at zero has to stop before the last two
seconds of it:

* `Time.InRange`: an instant or a span in the range;
* `Roomy`: what such a clock shows;
* `DozeSensors.Dated`, `dated_use`: the windows of the sensors hold times that the clock showed;
* `MediaEvent.Dated`, `media_dated`: so do the events of media buttons, or a millisecond more;
* `Core.Dated`, `dated_after`: **every instant that the daemon keeps was shown by the clock**, or
  stands for "never", or is the end of a hold that was armed at such a time;
* `Core.Reckons`: the sums and differences that a step may need at a reading of the clock;
* `instants_in_range`: **with such a clock no instant that is kept, reckoned or sent leaves the
  range.**
-/

import TouchDispatch.Proofs.Daemon.Holding
import TouchDispatch.Proofs.Daemon.Presses
import TouchDispatch.Proofs.Daemon.Waking

namespace TouchDispatch

open Dialogue

/-! ### Clocks -/

/-- An instant or a span in the 64-bit range. -/
def Time.InRange (time : Int) : Prop :=
  earliest ≤ time ∧ time ≤ latest

instance (time : Int) : Decidable (Time.InRange time) :=
  inferInstanceAs (Decidable (_ ∧ _))

/-- What a clock shows that started at zero or later, and that leaves room for one hold more. -/
def Roomy (readings : List Int) : Prop :=
  ∀ time ∈ readings, 0 ≤ time ∧ time + holdMillis ≤ Time.latest

instance (readings : List Int) : Decidable (Roomy readings) :=
  inferInstanceAs (Decidable (∀ _ ∈ readings, _))

section Clocks

variable {readings few : List Int} {now last : Int} {journal : List Entry} {entry : Entry}

theorem Roomy.subset (roomy : Roomy readings) (among : few ⊆ readings) : Roomy few :=
  fun time member => roomy time (among member)

theorem Roomy.inRange (roomy : Roomy readings) (shown : now ∈ readings) : Time.InRange now := by
  obtain ⟨started, room⟩ := roomy now shown
  unfold Time.InRange Time.earliest
  unfold holdMillis at room
  omega

/-- **There is room for the end of a hold.** -/
theorem Roomy.inRange_add (roomy : Roomy readings) (shown : now ∈ readings) {millis : Int}
    (least : 0 ≤ millis) (most : millis ≤ holdMillis) : Time.InRange (now + millis) := by
  obtain ⟨started, room⟩ := roomy now shown
  unfold Time.InRange Time.earliest
  omega

/-- **Two readings are no further apart than the range allows.** -/
theorem Roomy.inRange_sub (roomy : Roomy readings) (shown : now ∈ readings)
    (past : last ∈ readings) : Time.InRange (now - last) := by
  obtain ⟨started, room⟩ := roomy now shown
  obtain ⟨startedBefore, roomBefore⟩ := roomy last past
  unfold Time.latest holdMillis at room roomBefore
  unfold Time.InRange Time.earliest Time.latest
  omega

theorem inRange_earliest : Time.InRange Time.earliest := by
  decide

theorem clockReadings_subset (member : entry ∈ journal) :
    clockReadings entry.exchanges ⊆ clockReadings (exchangesOf journal) := by
  intro time shown
  obtain ⟨exchange, here, reads⟩ := List.mem_filterMap.mp shown
  exact List.mem_filterMap.mpr ⟨exchange, List.mem_flatMap.mpr ⟨entry, member, here⟩, reads⟩

end Clocks

/-! ### The sensors -/

namespace DozeSensors

variable {shown more : List Int} {sensors : DozeSensors} {uses : List Use} {use : Use}

/-- The times in the windows of the sensors are among those that the clock showed. -/
structure Dated (shown : List Int) (sensors : DozeSensors) : Prop where
  window : ∀ window, sensors.window = some window → window.lastAt ∈ shown
  tilt : ∀ last, sensors.tiltAt = some last → last ∈ shown

theorem Dated.mono (dated : sensors.Dated shown) (among : shown ⊆ more) : sensors.Dated more :=
  ⟨fun window held => among (dated.window window held),
    fun last held => among (dated.tilt last held)⟩

/-- **What is done with the sensors enters its own time in the windows, or none.** -/
theorem Dated.next (dated : sensors.Dated shown)
    (told : ∀ time, use.time? = some time → time ∈ shown) : (sensors.next use).Dated shown := by
  cases use with
  | displayOff now =>
    have here : now ∈ shown := told now rfl
    constructor
    · intro window held
      obtain ⟨_, same⟩ := Option.ite_none_right_eq_some.mp held
      obtain rfl := Option.some.inj same
      exact here
    · intro last held
      obtain ⟨_, same⟩ := Option.ite_none_right_eq_some.mp held
      obtain rfl := Option.some.inj same
      exact here
  | displayOn => exact ⟨nofun, nofun⟩
  | proximity sample now =>
    change (sensors.proximity sample now).2.Dated shown
    unfold DozeSensors.proximity
    split
    · exact dated
    · refine ⟨fun window held => ?_, dated.tilt⟩
      obtain rfl := Option.some.inj held
      exact told now rfl
  | tilt triggered now =>
    change (sensors.tilt triggered now).2.Dated shown
    unfold DozeSensors.tilt
    split
    · exact dated
    · split
      · exact dated
      · refine ⟨dated.window, fun last held => ?_⟩
        obtain rfl := Option.some.inj held
        exact told now rfl
  | configure features proximityCheck => exact ⟨dated.window, dated.tilt⟩

theorem Dated.after (dated : sensors.Dated shown)
    (told : ∀ use ∈ uses, ∀ time, use.time? = some time → time ∈ shown) :
    (sensors.after uses).Dated shown := by
  induction uses generalizing sensors with
  | nil => exact dated
  | cons use rest ih =>
    obtain ⟨here, later⟩ := List.forall_mem_cons.mp told
    exact ih (dated.next here) later

end DozeSensors

open DozeSensors (Use)

/-- What a change of the settings does with the sensors has no time. -/
theorem untimed_configures {core : Core} {change : Settings.Change} {use : Use} {time : Int}
    (member : use ∈ core.configures change) : use.time? ≠ some time := by
  unfold Core.configures at member
  split at member
  · rw [List.mem_singleton.mp member]
    exact nofun
  · cases member

/-- **What the daemon does with the sensors it does at readings of the clock.** -/
theorem dated_use {core : Core} {entry : Entry} {use : Use} {time : Int}
    (member : use ∈ core.uses entry) (timed : use.time? = some time) :
    time ∈ clockReadings entry.exchanges := by
  have shown : ∀ does : Int → Use, (∀ now, (does now).time? = some now) →
      use ∈ (clockReadings entry.exchanges).map does → time ∈ clockReadings entry.exchanges := by
    intro does reads member
    obtain ⟨now, here, rfl⟩ := List.mem_map.mp member
    obtain rfl := Option.some.inj ((reads now).symm.trans timed)
    exact here
  unfold Core.uses at member
  split at member
  · split at member
    · cases member
    · split at member
      · rw [List.mem_singleton.mp member] at timed
        cases timed
      · exact shown _ (fun _ => rfl) member
  · exact shown _ (fun _ => rfl) member
  · exact shown _ (fun _ => rfl) member
  · exact absurd timed (untimed_configures member)
  · next listener place _ =>
    cases found : (core.store.unread listener)[place]? with
    | none =>
      rw [found] at member
      cases member
    | some change =>
      rw [found] at member
      exact absurd timed (untimed_configures member)
  · cases member

/-! ### The media buttons -/

/-- An event of a media button whose times the clock showed. A button goes up a millisecond after it
went down if the clock did not move on. -/
structure MediaEvent.Dated (shown : List Int) (event : MediaEvent) : Prop where
  down : event.downAt ∈ shown
  happens : event.eventAt ∈ shown ∨ event.eventAt = event.downAt + 1

theorem MediaEvent.Dated.mono {shown more : List Int} {event : MediaEvent}
    (dated : event.Dated shown) (among : shown ⊆ more) : event.Dated more :=
  ⟨among dated.down, dated.happens.imp_left (among ·)⟩

theorem Pressed.dated {button : MediaButton} {exchanges : List Exchange}
    (pressed : Pressed button exchanges) :
    ∀ event ∈ asked Request.media? exchanges, event.Dated (clockReadings exchanges) := by
  cases pressed with
  | dropped => exact List.forall_mem_nil _
  | pressed downAt upAt first second =>
    have down : downAt ∈ [downAt, upAt] := List.mem_cons_self
    have up : upAt ∈ [downAt, upAt] := List.mem_cons_of_mem _ List.mem_cons_self
    have happens : max upAt (downAt + 1) ∈ [downAt, upAt] ∨
        max upAt (downAt + 1) = downAt + 1 := by
      by_cases stood : upAt ≤ downAt + 1
      · exact Or.inr (Int.max_eq_right stood)
      · rw [Int.max_eq_left (Int.le_of_not_le stood)]
        exact Or.inl up
    exact List.forall_mem_cons.mpr
      ⟨⟨down, Or.inl down⟩, List.forall_mem_singleton.mpr ⟨down, happens⟩⟩

/-- **The events of media buttons happen at readings of the clock, or a millisecond later.** -/
theorem media_dated {core next : Core} {entry : Entry}
    (ends : (core.step entry.step).Ends entry.exchanges next) :
    ∀ event ∈ asked Request.media? entry.exchanges,
      event.Dated (clockReadings entry.exchanges) := by
  cases performs : entry.step.gesture? with
  | none =>
    rw [asked_apart Request.media?_ofGesture (Core.step_apart core performs _ _ ends).1]
    exact List.forall_mem_nil _
  | some gesture =>
    obtain ⟨before, performed, time, performing, course, _⟩ := ends_gesture performs ends
    by_cases media : ∃ button, gesture = .run (.media button)
    · obtain ⟨button, rfl⟩ := media
      cases performing with
      | called done calls => cases calls
      | @media felt pressed _ armedAt locked feels presses =>
        have asks : asked Request.media? entry.exchanges = asked Request.media? pressed := by
          rw [course, asked_append, asked_append, asked_append, feels.asked_eq_nil rfl]
          exact List.append_nil _
        have among : clockReadings pressed ⊆ clockReadings entry.exchanges := by
          rw [course, clockReadings_append, clockReadings_append, clockReadings_append]
          intro time shown
          exact List.mem_append_left _ (List.mem_append_right _ (List.mem_append_right _ shown))
        rw [asks]
        exact fun event member => (presses.dated event member).mono among
    · have quiet := performing.unpressed fun button same => media ⟨button, same⟩
      rw [course, asked_append, quiet]
      exact List.forall_mem_nil _

theorem MediaEvent.Dated.inRange {shown : List Int} {event : MediaEvent} (dated : event.Dated shown)
    (roomy : Roomy shown) : Time.InRange event.downAt ∧ Time.InRange event.eventAt := by
  refine ⟨roomy.inRange dated.down, ?_⟩
  rcases dated.happens with member | same
  · exact roomy.inRange member
  · rw [same]
    exact roomy.inRange_add dated.down (by decide) (by decide)

/-! ### The daemon -/

/-- Every instant that the daemon keeps was shown by the clock, stands for "never", or is the end of
a hold that was armed at such a time. -/
structure Core.Dated (shown : List Int) (core : Core) : Prop where
  hold : core.hold.endsAt = Time.earliest ∨
    ∃ time ∈ shown, core.hold.endsAt = time + holdMillis
  millis : core.hold.millis = holdMillis
  lamp : core.lamp.armedAt = Time.earliest ∨ core.lamp.armedAt ∈ shown
  sensors : core.sensors.Dated shown

/-- When a hold ends that was armed at some times. -/
theorem endOf_cases (times : List Int) :
    endOf times = Time.earliest ∨ ∃ time ∈ times, endOf times = time + holdMillis := by
  unfold endOf
  cases found : times.getLast? with
  | none => exact Or.inl rfl
  | some last => exact Or.inr ⟨last, List.mem_of_getLast? found, rfl⟩

/-- The torch is switched at readings of the clock. -/
theorem lastSwitched_cases (journal : List Entry) :
    lastSwitched journal = Time.earliest ∨
      lastSwitched journal ∈ clockReadings (exchangesOf journal) := by
  unfold lastSwitched
  cases found : (torchLog journal).getLast?.join with
  | none => exact Or.inl rfl
  | some time =>
    have logged : some time ∈ torchLog journal :=
      List.mem_of_getLast? (Option.join_eq_some_iff.mp found)
    obtain ⟨entry, member, switched⟩ := List.mem_flatMap.mp logged
    obtain ⟨_, _, check⟩ := List.mem_map.mp switched
    exact Or.inr (clockReadings_subset member (List.mem_of_head? check))

section Runs

variable {σ : Type} (host : Host σ) (device : σ) (disk : Disk) (store : Settings.Store)
  (presence : Presence) (switches : Option Switches) (steps : List Step)

/-- **Every instant that the daemon keeps comes from the clock.** -/
theorem dated_after :
    let first := Session.opening host device disk store presence switches
    (first.after host steps).core.Dated
      (clockReadings (exchangesOf (first.journal host steps))) := by
  intro first
  have hold := hold_after host device disk store presence switches steps
  obtain ⟨lamp, _⟩ := lamp_after host device disk store presence switches steps
  constructor
  case hold =>
    rw [hold]
    refine (endOf_cases _).imp_right ?_
    rintro ⟨time, member, same⟩
    exact ⟨time, (armings_sublist _).subset member, same⟩
  case millis => rw [hold]
  case lamp =>
    rw [lamp]
    exact lastSwitched_cases _
  case sensors =>
    refine Session.keeps host
      (fun history core => core.sensors.Dated (clockReadings (exchangesOf history))) first ?_ ?_
      steps
    · rw [Session.opening_core]
      exact ⟨nofun, nofun⟩
    · intro history core entry next dated ends
      rw [Core.sensors_step ends, exchangesOf_append, exchangesOf_singleton, clockReadings_append]
      exact (dated.mono (List.subset_append_left _ _)).after fun use member time timed =>
        List.mem_append_right _ (dated_use member timed)

end Runs

/-- The instants that the daemon keeps are in the range. -/
structure Core.InRange (core : Core) : Prop where
  hold : Time.InRange core.hold.endsAt
  lamp : Time.InRange core.lamp.armedAt
  window : ∀ window, core.sensors.window = some window → Time.InRange window.lastAt
  tilt : ∀ last, core.sensors.tiltAt = some last → Time.InRange last

/-- What a step may have to reckon at a reading of the clock is in the range: the end of a hold, a
millisecond later, and the time since the last samples of the sensors. -/
structure Core.Reckons (core : Core) (now : Int) : Prop where
  hold : Time.InRange (now + core.hold.millis)
  later : Time.InRange (now + 1)
  window : ∀ window, core.sensors.window = some window → Time.InRange (now - window.lastAt)
  tilt : ∀ last, core.sensors.tiltAt = some last → Time.InRange (now - last)

section Ranges

variable {shown more : List Int} {core : Core}

theorem Core.Dated.mono (dated : core.Dated shown) (among : shown ⊆ more) : core.Dated more := by
  constructor
  case hold =>
    refine dated.hold.imp_right ?_
    rintro ⟨time, member, same⟩
    exact ⟨time, among member, same⟩
  case millis => exact dated.millis
  case lamp => exact dated.lamp.imp_right (among ·)
  case sensors => exact dated.sensors.mono among

theorem Core.Dated.inRange (dated : core.Dated shown) (roomy : Roomy shown) : core.InRange := by
  constructor
  case hold =>
    rcases dated.hold with never | ⟨time, member, same⟩
    · rw [never]
      exact inRange_earliest
    · rw [same]
      exact roomy.inRange_add member (by decide) (Int.le_refl _)
  case lamp =>
    rcases dated.lamp with never | member
    · rw [never]
      exact inRange_earliest
    · exact roomy.inRange member
  case window => exact fun window held => roomy.inRange (dated.sensors.window window held)
  case tilt => exact fun last held => roomy.inRange (dated.sensors.tilt last held)

theorem Core.Dated.reckons (dated : core.Dated shown) (roomy : Roomy shown) {now : Int}
    (here : now ∈ shown) : core.Reckons now := by
  constructor
  case hold =>
    rw [dated.millis]
    exact roomy.inRange_add here (by decide) (Int.le_refl _)
  case later => exact roomy.inRange_add here (by decide) (by decide)
  case window => exact fun window held => roomy.inRange_sub here (dated.sensors.window window held)
  case tilt => exact fun last held => roomy.inRange_sub here (dated.sensors.tilt last held)

end Ranges

/-- **With a clock that starts at zero and leaves room for one hold more, no instant leaves the
range**: neither one that the daemon keeps before a step, nor a sum or difference that the step
reckons at any of its readings, nor one that is sent with a media button. So no run with such a
clock is any different for a daemon that reckons in 64 bits. -/
theorem instants_in_range {σ : Type} (host : Host σ) (device : σ) (disk : Disk)
    (store : Settings.Store) (presence : Presence) (switches : Option Switches)
    (steps : List Step) (step : Step)
    (roomy : Roomy (clockReadings (exchangesOf
      ((Session.opening host device disk store presence switches).journal host
        (steps ++ [step]))))) :
    let first := Session.opening host device disk store presence switches
    let session := first.after host steps
    let exchanges := (session.core.step step).transcript host session.device
    session.core.InRange ∧ (∀ now ∈ clockReadings exchanges, session.core.Reckons now) ∧
      ∀ event ∈ asked Request.media? exchanges,
        Time.InRange event.downAt ∧ Time.InRange event.eventAt := by
  intro first session exchanges
  rw [Session.journal_concat, exchangesOf_append, exchangesOf_singleton, clockReadings_append]
    at roomy
  have dated : session.core.Dated (clockReadings (exchangesOf (first.journal host steps))) :=
    dated_after host device disk store presence switches steps
  have sent : ∀ event ∈ asked Request.media? exchanges, event.Dated (clockReadings exchanges) :=
    media_dated (ends_run host (session.core.step (Entry.mk step exchanges).step) session.device)
  refine ⟨dated.inRange (roomy.subset (List.subset_append_left _ _)), fun now shown => ?_,
    fun event member => ?_⟩
  · exact (dated.mono (List.subset_append_left _ _)).reckons roomy (List.mem_append_right _ shown)
  · exact (sent event member).inRange (roomy.subset (List.subset_append_right _ _))

end TouchDispatch
