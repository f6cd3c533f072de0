/-
**The torch is switched at most once in two seconds, and never ignored without reason.**

The lapse of the hold is not what counts here, as media gestures arm the same hold again: the daemon
remembers on its own when a gesture switched the torch last.

* `clockReadings`, `Steady`: what the clock showed, and that it never goes back;
* `torchLog`: when the torch was told to go on or off, as the clock was read for the check before;
* `CameraFound`: a search has found the rear camera;
* `ends_dispatchTorch`: what the torch gesture comes to, as far as it concerns the log;
* `Armed`: what the daemon remembers is the last entry of the log;
* `armed_step`: every step keeps that;
* `torch_paced`: **two requests to the torch are two seconds apart, and a torch gesture makes its
  request unless another was made within the two seconds before.**
-/

import TouchDispatch.Device.Bench
import TouchDispatch.Proofs.Daemon.Toggle

namespace TouchDispatch

open Dialogue

/-! ### The log of the torch -/

/-- What an exchange says of the time. -/
def Exchange.reading? : Exchange → Option Int
  | ⟨.now, time⟩ => some time
  | _ => none

/-- What the clock showed in the course of some exchanges, in order. -/
def clockReadings (exchanges : List Exchange) : List Int :=
  exchanges.filterMap Exchange.reading?

@[simp]
theorem clockReadings_append (before after : List Exchange) :
    clockReadings (before ++ after) = clockReadings before ++ clockReadings after :=
  List.filterMap_append

/-- A clock that started at zero or later and never went back. -/
def Steady (readings : List Int) : Prop :=
  readings.Pairwise (· ≤ ·) ∧ ∀ time ∈ readings, 0 ≤ time

instance (readings : List Int) : Decidable (Steady readings) :=
  inferInstanceAs (Decidable (_ ∧ _))

/-- A search has found the rear camera. -/
def CameraFound (exchanges : List Exchange) : Prop :=
  ∃ camera : String, (⟨.findCamera, CameraSearch.found camera⟩ : Exchange) ∈ exchanges

theorem cameraFound_append {before after : List Exchange} :
    CameraFound (before ++ after) ↔ CameraFound before ∨ CameraFound after := by
  unfold CameraFound
  constructor
  · rintro ⟨camera, member⟩
    exact (List.mem_append.mp member).imp (fun here => ⟨camera, here⟩) fun here => ⟨camera, here⟩
  · rintro (⟨camera, here⟩ | ⟨camera, here⟩)
    · exact ⟨camera, List.mem_append_left _ here⟩
    · exact ⟨camera, List.mem_append_right _ here⟩

/-- When the torch was told to go on or off in the course of a step: each request counts at the
first reading of the clock, which is that of the check for repeats. -/
def Entry.torchTimes (entry : Entry) : List (Option Int) :=
  (asked Request.torch? entry.exchanges).map fun _ => (clockReadings entry.exchanges).head?

/-- When the torch was told to go on or off in the course of a journal. -/
def torchLog (journal : List Entry) : List (Option Int) :=
  journal.flatMap Entry.torchTimes

theorem torchLog_concat (journal : List Entry) (entry : Entry) :
    torchLog (journal ++ [entry]) = torchLog journal ++ entry.torchTimes := by
  unfold torchLog
  rw [List.flatMap_append, List.flatMap_singleton]

theorem torchLog_quiet (journal : List Entry) {entry : Entry}
    (quiet : asked Request.torch? entry.exchanges = []) :
    torchLog (journal ++ [entry]) = torchLog journal := by
  rw [torchLog_concat, Entry.torchTimes, quiet]
  exact List.append_nil _

theorem torchLog_once (journal : List Entry) {entry : Entry} {request : String × Bool} {now : Int}
    (once : asked Request.torch? entry.exchanges = [request])
    (check : (clockReadings entry.exchanges).head? = some now) :
    torchLog (journal ++ [entry]) = torchLog journal ++ [some now] := by
  rw [torchLog_concat, Entry.torchTimes, once, check]
  rfl

/-! ### What the torch gesture comes to -/

section Courses

variable {core next : Core} {exchanges : List Exchange}

theorem Sought.quiet {camera : Option String} (sought : Sought core exchanges camera) :
    clockReadings exchanges = [] ∧ asked Request.torch? exchanges = [] ∧
      (camera.isSome = true ↔ core.lamp.camera.isSome = true ∨ CameraFound exchanges) := by
  cases sought with
  | known lamp =>
    rw [lamp]
    exact ⟨rfl, rfl, fun _ => Or.inl rfl, fun _ => rfl⟩
  | searched search lamp =>
    rw [lamp]
    refine ⟨rfl, rfl, fun some => Or.inr ?_, ?_⟩
    · cases search with
      | found id => exact ⟨id, List.mem_singleton_self _⟩
      | failed => cases some
      | missing => cases some
    · rintro (impossible | ⟨id, member⟩)
      · cases impossible
      · obtain ⟨-, same⟩ := Exchange.mk.inj (List.mem_singleton.mp member)
        rw [← eq_of_heq same]
        rfl

/-- What is not asked of the torch is no business of it. -/
theorem torch_silent (silent : ∀ exchange ∈ exchanges, exchange.request.part ≠ .torch) :
    asked Request.torch? exchanges = [] ∧ ¬ CameraFound exchanges := by
  refine ⟨asked_eq_nil fun exchange member => Request.torch?_eq_none (silent exchange member), ?_⟩
  rintro ⟨camera, member⟩
  exact silent _ member rfl

theorem torch_aside (aside : ∀ exchange ∈ exchanges, Own .other exchange.request) :
    asked Request.torch? exchanges = [] :=
  (torch_silent fun exchange member => (aside exchange member).ne nofun nofun).1

/-- What has to do with another part leaves the torch alone, and what is known of it. -/
theorem torch_kept {step : Step} (other : step.part ≠ .torch)
    (ends : (core.step step).Ends exchanges next) :
    asked Request.torch? exchanges = [] ∧ ¬ CameraFound exchanges ∧
      next.lamp.camera = core.lamp.camera ∧ next.lamp.armedAt = core.lamp.armedAt ∧
        next.hold.millis = core.hold.millis := by
  obtain ⟨own, frame⟩ := Core.step_frame core step exchanges next ends
  obtain ⟨quiet, unfound⟩ := torch_silent fun exchange member =>
    (own exchange member).ne other nofun
  have arming := frame.arming other
  simp only [Core.arming, Arming.mk.injEq] at arming
  exact ⟨quiet, unfound, arming⟩

/-- What switching the torch comes to. -/
inductive Toggled (core : Core) (exchanges : List Exchange) (next : Core) : Prop
  /-- There is no rear camera. -/
  | missing (camera : next.lamp.camera = none) (quiet : asked Request.torch? exchanges = [])
      (armedAt : next.lamp.armedAt = core.lamp.armedAt)
  /-- A gesture switched the torch just before. -/
  | dropped (now : Int) (camera : next.lamp.camera.isSome = true)
      (check : (clockReadings exchanges).head? = some now)
      (soon : Time.elapsed core.lamp.armedAt now < core.hold.millis)
      (quiet : asked Request.torch? exchanges = [])
      (armedAt : next.lamp.armedAt = core.lamp.armedAt)
  /-- The torch is told to go on or off. -/
  | switched (now : Int) (camera : next.lamp.camera.isSome = true)
      (check : (clockReadings exchanges).head? = some now)
      (late : ¬ Time.elapsed core.lamp.armedAt now < core.hold.millis)
      (once : ∃ request, asked Request.torch? exchanges = [request])
      (armedAt : next.lamp.armedAt = now)

/-- Once the camera is there, the clock is read for the check. -/
theorem Sought.check {camera : String} (sought : Sought core exchanges (some camera)) (now : Int)
    (after : List Exchange) :
    (clockReadings (exchanges ++ ⟨.now, now⟩ :: after)).head? = some now ∧
      asked Request.torch? (exchanges ++ ⟨.now, now⟩ :: after) = asked Request.torch? after ∧
      (core.lamp.camera.isSome = true ∨ CameraFound (exchanges ++ ⟨.now, now⟩ :: after)) := by
  obtain ⟨unread, silent, known⟩ := sought.quiet
  refine ⟨?_, ?_, ?_⟩
  · rw [clockReadings_append, unread]
    rfl
  · rw [asked_append, silent]
    rfl
  · rw [cameraFound_append, ← or_assoc]
    exact Or.inl (known.mp rfl)

/-- **The torch gesture makes one request, or none for a reason.** -/
theorem ends_dispatchTorch (ends : (core.step (.dispatch (.run .torch))).Ends exchanges next) :
    Toggled core exchanges next ∧ next.hold.millis = core.hold.millis ∧
      (next.lamp.camera.isSome = true ↔
        core.lamp.camera.isSome = true ∨ CameraFound exchanges) := by
  obtain ⟨before, toggled, time, course, rfl, rfl⟩ := ends_torchGesture ends
  cases course with
  | missing sought =>
    obtain ⟨_, silent, known⟩ := sought.quiet
    have other : ¬ CameraFound [⟨.now, time⟩] := by
      rintro ⟨camera, member⟩
      cases List.mem_singleton.mp member
    refine ⟨.missing sought.missing ?_ rfl, rfl, ?_⟩
    · rw [asked_append, silent]
      rfl
    · rw [cameraFound_append, or_iff_left other, ← known]
      exact iff_of_eq (congrArg (·.isSome = true) sought.missing)
  | dropped now sought soon =>
    rw [List.append_assoc]
    obtain ⟨check, requests, found⟩ := sought.check now [⟨.now, time⟩]
    exact ⟨.dropped now rfl check soon requests rfl, rfl, fun _ => found, fun _ => rfl⟩
  | @switched search aside camera now hold done sought late beside millis =>
    rw [List.append_assoc, List.cons_append]
    obtain ⟨check, requests, found⟩ := sought.check now
      (aside ++ [⟨.perform (.torch camera (!core.lamp.on)), done⟩] ++ [⟨.now, time⟩])
    have once : asked Request.torch?
        (aside ++ [⟨.perform (.torch camera (!core.lamp.on)), done⟩] ++ [⟨.now, time⟩]) =
          [(camera, !core.lamp.on)] := by
      rw [asked_append, asked_append, torch_aside beside]
      rfl
    exact ⟨.switched now rfl check late ⟨_, requests.trans once⟩ rfl, millis,
      fun _ => found, fun _ => rfl⟩

end Courses

/-! ### Runs -/

/-- The times at which the torch was told to go on or off are two seconds apart, and the daemon
remembers the last of them. -/
structure Armed (times : List Int) (journal : List Entry) (core : Core) : Prop where
  logged : torchLog journal = times.map some
  apart : times.Pairwise fun earlier later : Int => earlier + holdMillis ≤ later
  /-- Each of them was shown by the clock. -/
  shown : ∀ time ∈ times, time ∈ clockReadings (exchangesOf journal)
  last : core.lamp.armedAt = times.getLast?.getD Time.earliest
  rest : core.hold.millis = holdMillis
  camera : core.lamp.camera.isSome = true ↔ CameraFound (exchangesOf journal)

section Runs

variable {times : List Int} {journal : List Entry} {core next : Core} {entry : Entry} {now : Int}

/-- **The check sees the last request only, and that is enough.** Before the first request it sees
the earliest instant, which is long ago for a clock that starts at zero. -/
theorem Armed.soon_iff (armed : Armed times journal core) (started : 0 ≤ now)
    (past : ∀ time ∈ times, time ≤ now) :
    Time.elapsed core.lamp.armedAt now < core.hold.millis ↔
      ∃ time ∈ times, now < time + holdMillis := by
  have apart := armed.apart
  rw [armed.last, armed.rest]
  rcases List.eq_nil_or_concat times with rfl | ⟨before, last, rfl⟩
  · constructor
    -- The span from the earliest instant is held at the greatest one, far above the two seconds.
    · intro soon
      change max Time.earliest (min Time.latest (now - Time.earliest)) < 2000 at soon
      unfold Time.earliest Time.latest at soon
      omega
    · rintro ⟨time, member, _⟩
      cases member
  · rw [List.concat_eq_append] at past apart ⊢
    rw [List.getLast?_concat]
    change max Time.earliest (min Time.latest (now - last)) < 2000 ↔ _
    have here : last ≤ now := past last (List.mem_concat_self)
    have elapsed : max Time.earliest (min Time.latest (now - last)) < 2000 ↔
        now < last + holdMillis := by
      unfold Time.earliest Time.latest holdMillis
      omega
    rw [elapsed]
    constructor
    · exact fun soon => ⟨last, List.mem_concat_self, soon⟩
    · rintro ⟨time, member, soon⟩
      rcases List.mem_append.mp member with earlier | same
      -- An earlier request is two seconds before the last one already.
      · have gap : time + holdMillis ≤ last :=
          (List.pairwise_append.mp apart).2.2 time earlier last (List.mem_singleton_self _)
        omega
      · rw [← List.mem_singleton.mp same]
        exact soon

/-- With a steady clock, a step reads it when all earlier requests are past. -/
theorem Armed.past (armed : Armed times journal core)
    (steady : Steady (clockReadings (exchangesOf (journal ++ [entry]))))
    (check : (clockReadings entry.exchanges).head? = some now) :
    0 ≤ now ∧ ∀ time ∈ times, time ≤ now := by
  have read : now ∈ clockReadings entry.exchanges := List.mem_of_head? check
  rw [exchangesOf_append, exchangesOf_singleton, clockReadings_append] at steady
  refine ⟨steady.2 now (List.mem_append_right _ read), fun time member => ?_⟩
  exact (List.pairwise_append.mp steady.1).2.2 time (armed.shown time member) now read

theorem Armed.shown_concat (armed : Armed times journal core) :
    ∀ time ∈ times, time ∈ clockReadings (exchangesOf (journal ++ [entry])) := by
  intro time member
  rw [exchangesOf_append, clockReadings_append]
  exact List.mem_append_left _ (armed.shown time member)

theorem Armed.logged_concat (armed : Armed times journal core)
    (quiet : asked Request.torch? entry.exchanges = []) :
    torchLog (journal ++ [entry]) = times.map some :=
  (torchLog_quiet journal quiet).trans armed.logged

/-- What has to do with another part than the torch leaves the log as it is. -/
theorem Armed.kept (armed : Armed times journal core) (other : entry.step.part ≠ .torch)
    (ends : (core.step entry.step).Ends entry.exchanges next) :
    Armed times (journal ++ [entry]) next := by
  obtain ⟨quiet, unfound, camera, armedAt, millis⟩ := torch_kept other ends
  constructor
  case logged => exact armed.logged_concat quiet
  case apart => exact armed.apart
  case shown => exact armed.shown_concat
  case last => rw [armedAt, armed.last]
  case rest => rw [millis, armed.rest]
  case camera =>
    rw [exchangesOf_append, exchangesOf_singleton, cameraFound_append, or_iff_left unfound, camera]
    exact armed.camera

/-- **The torch gesture enters its request in the log, or makes none.** -/
theorem Armed.toggled (armed : Armed times journal core)
    (steady : Steady (clockReadings (exchangesOf (journal ++ [entry]))))
    (gesture : entry.step = .dispatch (.run .torch))
    (ends : (core.step entry.step).Ends entry.exchanges next) :
    ∃ times, Armed times (journal ++ [entry]) next := by
  rw [gesture] at ends
  obtain ⟨outcome, millis, found⟩ := ends_dispatchTorch ends
  have camera : next.lamp.camera.isSome = true ↔
      CameraFound (exchangesOf (journal ++ [entry])) := by
    rw [exchangesOf_append, exchangesOf_singleton, cameraFound_append, found, armed.camera]
  have rest : next.hold.millis = holdMillis := by rw [millis, armed.rest]
  cases outcome with
  | missing _ quiet armedAt =>
    exact ⟨times, armed.logged_concat quiet, armed.apart, armed.shown_concat,
      armedAt.trans armed.last, rest, camera⟩
  | dropped now _ _ _ quiet armedAt =>
    exact ⟨times, armed.logged_concat quiet, armed.apart, armed.shown_concat,
      armedAt.trans armed.last, rest, camera⟩
  | switched now _ check late once armedAt =>
    obtain ⟨request, once⟩ := once
    obtain ⟨started, past⟩ := armed.past steady check
    refine ⟨times ++ [now], ?_, ?_, ?_, ?_, rest, camera⟩
    · rw [torchLog_once journal once check, armed.logged, List.map_append]
      rfl
    · refine List.pairwise_append.mpr ⟨armed.apart, List.pairwise_singleton _ _, ?_⟩
      intro time member later same
      rw [List.mem_singleton.mp same]
      by_contra soon
      refine late ((armed.soon_iff started past).mpr ⟨time, member, ?_⟩)
      exact Int.not_le.mp soon
    · intro time member
      rcases List.mem_append.mp member with earlier | same
      · exact armed.shown_concat time earlier
      · rw [List.mem_singleton.mp same, exchangesOf_append, exchangesOf_singleton,
          clockReadings_append]
        exact List.mem_append_right _ (List.mem_of_head? check)
    · rw [armedAt, List.getLast?_concat]
      rfl

/-- **Every step keeps the log.** -/
theorem armed_step (armed : Armed times journal core)
    (steady : Steady (clockReadings (exchangesOf (journal ++ [entry]))))
    (ends : (core.step entry.step).Ends entry.exchanges next) :
    ∃ times, Armed times (journal ++ [entry]) next := by
  by_cases torch : entry.step.part = .torch
  · exact armed.toggled steady (Step.part_eq_torch torch) ends
  · exact ⟨times, armed.kept torch ends⟩

theorem Steady.before {before after : List Int} (steady : Steady (before ++ after)) :
    Steady before :=
  ⟨(List.pairwise_append.mp steady.1).1, fun time member =>
    steady.2 time (List.mem_append_left _ member)⟩

end Runs

/-- With a steady clock the log is kept throughout a run. -/
theorem armed_after {σ : Type} (host : Host σ) (device : σ) (disk : Disk) (store : Settings.Store)
    (presence : Presence) (switches : Option Switches) (steps : List Step) :
    let first := Session.opening host device disk store presence switches
    Steady (clockReadings (exchangesOf (first.journal host steps))) →
      ∃ times, Armed times (first.journal host steps) (first.after host steps).core := by
  intro first
  refine Session.keeps host (fun history core => Steady (clockReadings (exchangesOf history)) →
    ∃ times, Armed times history core) first ?_ ?_ steps
  · intro _
    rw [Session.opening_core]
    exact ⟨[], rfl, List.Pairwise.nil, nofun, rfl, rfl, nofun, nofun⟩
  · intro history core entry next holds ends steady
    have earlier : Steady (clockReadings (exchangesOf history)) := by
      rw [exchangesOf_append, clockReadings_append] at steady
      exact steady.before
    obtain ⟨times, armed⟩ := holds earlier
    exact armed_step armed steady ends

/-- **Two requests to the torch are at least two seconds apart**, whether or not the first of them
succeeded. **A torch gesture makes exactly one request**, as soon as a search has found the rear
camera, unless there was another within the two seconds before. -/
theorem torch_paced {σ : Type} (host : Host σ) (device : σ) (disk : Disk) (store : Settings.Store)
    (presence : Presence) (switches : Option Switches) (steps : List Step)
    (steady : Steady (clockReadings (exchangesOf
      ((Session.opening host device disk store presence switches).journal host steps)))) :
    let first := Session.opening host device disk store presence switches
    (∃ times : List Int, torchLog (first.journal host steps) = times.map some ∧
      times.Pairwise fun earlier later => earlier + 2000 ≤ later) ∧
    ∀ before after, steps = before ++ .dispatch (.run .torch) :: after →
      let session := first.after host before
      let earlier := first.journal host before
      let exchanges :=
        (session.core.step (.dispatch (.run .torch))).transcript host session.device
      CameraFound (exchangesOf earlier ++ exchanges) →
        ∃ now, (clockReadings exchanges).head? = some now ∧
          ((asked Request.torch? exchanges).length = 1 ∧
              (∀ time, some time ∈ torchLog earlier → time + 2000 ≤ now) ∨
            asked Request.torch? exchanges = [] ∧
              ∃ time, some time ∈ torchLog earlier ∧ now < time + 2000) := by
  intro first
  refine ⟨?_, ?_⟩
  · obtain ⟨times, armed⟩ := armed_after host device disk store presence switches steps steady
    exact ⟨times, armed.logged, armed.apart⟩
  · intro before after split session earlier exchanges found
    have whole : first.journal host steps =
        (earlier ++ [⟨.dispatch (.run .torch), exchanges⟩]) ++
          (first.after host (before ++ [.dispatch (.run .torch)])).journal host after := by
      rw [split, List.append_cons, Session.journal_append, Session.journal_concat]
    have here : Steady (clockReadings (exchangesOf
        (earlier ++ [⟨.dispatch (.run .torch), exchanges⟩]))) := by
      change Steady (clockReadings (exchangesOf (first.journal host steps))) at steady
      rw [whole, exchangesOf_append, clockReadings_append] at steady
      exact steady.before
    have past : Steady (clockReadings (exchangesOf earlier)) := by
      rw [exchangesOf_append, clockReadings_append] at here
      exact here.before
    obtain ⟨times, armed⟩ := armed_after host device disk store presence switches before past
    have logged : ∀ time, some time ∈ torchLog earlier ↔ time ∈ times := by
      intro time
      rw [armed.logged]
      refine ⟨fun member => ?_, fun member => List.mem_map_of_mem member⟩
      obtain ⟨other, found, same⟩ := List.mem_map.mp member
      exact Option.some.inj same ▸ found
    obtain ⟨outcome, _, known⟩ := ends_dispatchTorch (ends_run host _ session.device)
    cases outcome with
    | missing none =>
      rw [none] at known
      rw [cameraFound_append, ← armed.camera] at found
      cases known.mpr found
    | dropped now _ check soon quiet =>
      obtain ⟨started, before⟩ := armed.past here check
      obtain ⟨time, member, close⟩ := (armed.soon_iff started before).mp soon
      exact ⟨now, check, Or.inr ⟨quiet, time, (logged time).mpr member, close⟩⟩
    | switched now _ check late once =>
      obtain ⟨started, before⟩ := armed.past here check
      obtain ⟨request, once⟩ := once
      refine ⟨now, check, Or.inl ⟨congrArg List.length once, fun time member => ?_⟩⟩
      by_contra soon
      refine late ((armed.soon_iff started before).mpr ⟨time, (logged time).mp member, ?_⟩)
      exact Int.not_le.mp soon

/-- On a bench whose clock starts at zero, the first torch gesture is performed at once, the second
when two seconds are just over, and the third is dropped. A media gesture in between arms the
hold. -/
theorem torch_paced_on_bench :
    let first := Session.opening Bench.host { clock := 0, mediaMillis := 1000 } {} {} {} none
    let steps : List Step :=
      [.dispatch (.run .torch), .dispatch (.run (.media .playPause)), .dispatch (.run .torch),
        .dispatch (.run .torch)]
    Steady (clockReadings (exchangesOf (first.journal Bench.host steps))) ∧
      torchLog (first.journal Bench.host steps) = [some 0, some 2000] ∧
      ∃ times : List Int, torchLog (first.journal Bench.host steps) = times.map some ∧
        times.Pairwise fun earlier later => earlier + 2000 ≤ later :=
  ⟨by decide, by decide, (torch_paced Bench.host _ {} {} {} none _ (by decide)).1⟩

end TouchDispatch
