/-
**The hold covers two seconds after each gesture that arms it.**

A hold has one end only, and arming it again overwrites that. With a clock that never goes back the
end never comes any sooner.

* `Forward`: a clock that never goes back;
* `Entry.arms`, `Entry.armedAt?`, `armings`: which gestures arm the hold, and at which readings of
  the clock;
* `lastSwitched`: when a gesture switched the torch last, which is what the check for repeats sees;
* `Holding`, `ends_holding`: a step arms the hold under one lock, or asks for none and leaves it;
* `hold_after`, `lamp_after`: what a run leaves of the hold and of the check for repeats;
* `until?_later`: the hold is never armed until a time that is sooner than before;
* `hold_covers`: **the hold is in force for two seconds after each arming and at no other time.**
-/

import TouchDispatch.Proofs.Daemon.Gesturing
import TouchDispatch.Proofs.Daemon.Torch

namespace TouchDispatch

open Dialogue

/-! ### The clock and the armings -/

/-- A clock that never went back. No instant is before the earliest one. No bound from above is
needed, as the end of a hold is exact; in 64 bits it is so if the clock is `Roomy`. -/
def Forward (readings : List Int) : Prop :=
  readings.Pairwise (· ≤ ·) ∧ ∀ time ∈ readings, Time.earliest ≤ time

instance (readings : List Int) : Decidable (Forward readings) :=
  inferInstanceAs (Decidable (_ ∧ _))

theorem Forward.sublist {few readings : List Int} (forward : Forward readings)
    (among : few.Sublist readings) : Forward few :=
  ⟨forward.1.sublist among, fun time member => forward.2 time (among.subset member)⟩

/-- Whether a gesture arms the hold: a media gesture always does, and a torch gesture if it tells
the torch to go on or off. -/
def Entry.arms (entry : Entry) : Bool :=
  match entry.step.gesture? with
  | some (.run (.media _)) => true
  | some (.run .torch) => !(asked Request.torch? entry.exchanges).isEmpty
  | _ => false

/-- When a gesture arms the hold. The torch gesture has read the clock once before, for the check
for repeats. -/
def Entry.armedAt? (entry : Entry) : Option Int :=
  if entry.arms then
    match entry.step.gesture? with
    | some (.run .torch) => (clockReadings entry.exchanges)[1]?
    | _ => (clockReadings entry.exchanges)[0]?
  else
    none

theorem Entry.armedAt?_of_idle {entry : Entry} (idle : entry.arms = false) :
    entry.armedAt? = none := by
  unfold Entry.armedAt?
  rw [idle]
  rfl

/-- When the hold was armed in the course of a journal. -/
def armings (journal : List Entry) : List Int :=
  journal.filterMap Entry.armedAt?

/-- When a gesture told the torch to go on or off last; the earliest instant if none ever did. -/
def lastSwitched (journal : List Entry) : Int :=
  (torchLog journal).getLast?.join.getD Time.earliest

theorem lastSwitched_quiet (journal : List Entry) {entry : Entry}
    (quiet : asked Request.torch? entry.exchanges = []) :
    lastSwitched (journal ++ [entry]) = lastSwitched journal := by
  unfold lastSwitched
  rw [torchLog_quiet journal quiet]

theorem lastSwitched_once (journal : List Entry) {entry : Entry} {request : String × Bool}
    {now : Int} (once : asked Request.torch? entry.exchanges = [request])
    (check : (clockReadings entry.exchanges).head? = some now) :
    lastSwitched (journal ++ [entry]) = now := by
  unfold lastSwitched
  rw [torchLog_once journal once check, List.getLast?_concat]
  rfl

@[simp]
theorem armings_append (before after : List Entry) :
    armings (before ++ after) = armings before ++ armings after :=
  List.filterMap_append

/-- The hold is armed at readings of the clock. -/
theorem armings_sublist (journal : List Entry) :
    (armings journal).Sublist (clockReadings (exchangesOf journal)) := by
  induction journal with
  | nil => exact .slnil
  | cons entry rest ih =>
    have here : entry.armedAt?.toList.Sublist (clockReadings entry.exchanges) := by
      have shown : ∀ place : Nat, (clockReadings entry.exchanges)[place]?.toList.Sublist
          (clockReadings entry.exchanges) := by
        intro place
        cases found : (clockReadings entry.exchanges)[place]? with
        | none => exact List.nil_sublist _
        | some time => exact List.singleton_sublist.mpr (List.mem_of_getElem? found)
      unfold Entry.armedAt?
      split
      · split
        · exact shown 1
        · exact shown 0
      · exact List.nil_sublist _
    have listed : armings (entry :: rest) = entry.armedAt?.toList ++ armings rest := by
      unfold armings
      simp only [List.filterMap_eq_flatMap_toList, List.flatMap_cons]
    rw [exchangesOf, List.flatMap_cons, clockReadings_append, listed]
    exact here.append ih

/-! ### When a hold ends -/

section Ends

variable {times more : List Int} {now : Int}

/-- When a hold ends that was armed at some times, one after another. -/
def endOf (times : List Int) : Int :=
  (times.getLast?.map (· + (holdMillis : Int))).getD Time.earliest

/-- **With a clock that never goes back, the last arming tells all.** -/
theorem lt_endOf_iff (forward : Forward (times ++ [now])) :
    now < endOf times ↔ ∃ time ∈ times, time ≤ now ∧ now < time + holdMillis := by
  obtain ⟨sorted, started⟩ := forward
  rcases List.eq_nil_or_concat times with rfl | ⟨before, last, rfl⟩
  · constructor
    · intro early
      exact absurd early (Int.not_lt.mpr (started now (List.mem_append_right _
        (List.mem_singleton_self _))))
    · rintro ⟨time, member, _⟩
      cases member
  · rw [List.concat_eq_append] at sorted ⊢
    obtain ⟨ascending, _, past⟩ := List.pairwise_append.mp sorted
    have here : last ≤ now := past last List.mem_concat_self now (List.mem_singleton_self _)
    unfold endOf
    rw [List.getLast?_concat]
    change now < last + holdMillis ↔ _
    constructor
    · exact fun early => ⟨last, List.mem_concat_self, here, early⟩
    · rintro ⟨time, member, _, early⟩
      rcases List.mem_append.mp member with sooner | same
      -- An earlier arming lapses no later than the last one.
      · have order : time ≤ last :=
          (List.pairwise_append.mp ascending).2.2 time sooner last (List.mem_singleton_self _)
        omega
      · rw [← List.mem_singleton.mp same]
        exact early

/-- A hold that was never armed is told from one that was. -/
theorem until?_endOf (started : ∀ time ∈ times, Time.earliest ≤ time) {hold : Hold}
    (endsAt : hold.endsAt = endOf times) :
    hold.until? = times.getLast?.map (· + (holdMillis : Int)) := by
  unfold Hold.until?
  rw [endsAt]
  unfold endOf
  cases found : times.getLast? with
  | none => rfl
  | some last =>
    have lower : Time.earliest ≤ last := started last (List.mem_of_getLast? found)
    -- The end is past the instant that stands for "never", as it is past a reading of the clock.
    refine if_neg fun same => ?_
    change last + (holdMillis : Int) = Time.earliest at same
    unfold holdMillis at same
    omega

/-- Further armings put the end off. -/
theorem getLast?_le (sorted : (times ++ more).Pairwise (· ≤ ·)) {early : Int}
    (found : times.getLast? = some early) :
    ∃ late, (times ++ more).getLast? = some late ∧ early ≤ late := by
  rcases List.eq_nil_or_concat more with rfl | ⟨between, late, rfl⟩
  · rw [List.append_nil]
    exact ⟨early, found, Int.le_refl _⟩
  · rw [List.concat_eq_append] at sorted ⊢
    refine ⟨late, ?_, (List.pairwise_append.mp sorted).2.2 early (List.mem_of_getLast? found) late
      List.mem_concat_self⟩
    rw [← List.append_assoc, List.getLast?_concat]

end Ends

/-! ### One step -/

/-- What a step does with the hold. -/
inductive Holding (hold : Hold) (entry : Entry) (next : Hold) : Prop
  /-- The hold is armed under one lock, before the torch is switched and before a button is sent. -/
  | armed (time : Int) (done : Bool) {before after : List Exchange} (arms : entry.arms = true)
      (armedAt : entry.armedAt? = some time)
      (course : entry.exchanges = before ++ (hold.arming time done ++ after))
      (once : asked Request.lock? (before ++ after) = [])
      (first : asked Request.torch? before = [] ∧ asked Request.media? before = [])
      (armed : next = hold.armed time)
  | kept (idle : entry.arms = false) (unasked : asked Request.lock? entry.exchanges = [])
      (same : next = hold)

section Steps

variable {core next performed : Core} {exchanges : List Exchange} {entry : Entry} {time : Int}

/-- The torch gesture arms the hold when it tells the torch to go on or off. -/
theorem Performing.holding_torch (performing : Performing core (.run .torch) exchanges performed)
    (performs : entry.step.gesture? = some (.run .torch))
    (course : entry.exchanges = exchanges ++ [⟨.now, time⟩]) :
    Holding core.hold entry performed.hold := by
  have arms : entry.arms = !(asked Request.torch? entry.exchanges).isEmpty := by
    unfold Entry.arms
    rw [performs]
  have idle : ∀ requests : List Exchange, asked Request.torch? requests = [] →
      entry.exchanges = requests → entry.arms = false := by
    intro requests quiet same
    rw [arms, same, quiet]
    rfl
  cases performing with
  | missing sought =>
    refine .kept (idle _ ?_ course) ?_ rfl
    · rw [asked_append, sought.asked_eq_nil rfl]
      rfl
    · rw [course, asked_append, sought.asked_eq_nil rfl]
      rfl
  | dropped check sought =>
    rw [List.append_assoc] at course
    refine .kept (idle _ ?_ course) ?_ rfl
    · rw [asked_append, sought.asked_eq_nil rfl]
      rfl
    · rw [course, asked_append, sought.asked_eq_nil rfl]
      rfl
  | @switched search felt camera check armedAt locked done sought late feels =>
    have split : entry.exchanges =
        (search ++ [⟨.now, check⟩]) ++ (core.hold.arming armedAt locked ++
          (felt ++ [⟨.perform (.torch camera (!core.lamp.on)), done⟩, ⟨.now, time⟩])) := by
      rw [course]
      simp only [List.append_assoc, List.cons_append, List.nil_append]
    have armed : entry.arms = true := by
      rw [arms, split, asked_append, asked_append, asked_append, asked_append,
        sought.asked_eq_nil rfl, feels.asked_eq_nil rfl]
      rfl
    refine .armed armedAt locked armed ?_ split ?_ ⟨?_, ?_⟩ rfl
    · unfold Entry.armedAt?
      rw [if_pos armed, performs, split, clockReadings_append, clockReadings_append,
        sought.quiet.1]
      rfl
    · rw [asked_append, asked_append, asked_append, sought.asked_eq_nil rfl,
        feels.asked_eq_nil rfl]
      rfl
    · rw [asked_append, sought.asked_eq_nil rfl]
      rfl
    · rw [asked_append, sought.asked_eq_nil rfl]
      rfl
  | called done calls => cases calls

/-- A media gesture arms the hold, whether or not its button is pressed. -/
theorem Performing.holding_media {button : MediaButton}
    (performing : Performing core (.run (.media button)) exchanges performed)
    (performs : entry.step.gesture? = some (.run (.media button)))
    (course : entry.exchanges = exchanges ++ [⟨.now, time⟩]) :
    Holding core.hold entry performed.hold := by
  cases performing with
  | @media felt pressed _ armedAt locked feels presses =>
    have arms : entry.arms = true := by
      unfold Entry.arms
      rw [performs]
    have split : entry.exchanges =
        felt ++ (core.hold.arming armedAt locked ++ (pressed ++ [⟨.now, time⟩])) := by
      rw [course, List.append_assoc, List.append_assoc]
    have unlocked : asked Request.lock? pressed = [] := by
      cases presses <;> rfl
    refine .armed armedAt locked arms ?_ split ?_
      ⟨feels.asked_eq_nil rfl, feels.asked_eq_nil rfl⟩ rfl
    · have unread : clockReadings felt = [] := by
        cases feels <;> rfl
      unfold Entry.armedAt?
      rw [if_pos arms, performs, split, clockReadings_append, unread]
      rfl
    · rw [asked_append, asked_append, unlocked, feels.asked_eq_nil rfl]
      rfl
  | called done calls => cases calls

/-- Other gestures ask for no lock. -/
theorem Performing.holding_other {gesture : Gesture}
    (performing : Performing core gesture exchanges performed) (torch : gesture ≠ .run .torch)
    (media : ∀ button, gesture ≠ .run (.media button)) :
    asked Request.lock? exchanges = [] ∧ performed = core := by
  cases performing with
  | missing | dropped | switched => exact absurd rfl torch
  | media => exact absurd rfl (media _)
  | called done calls feels =>
    refine ⟨?_, rfl⟩
    rw [asked_append, feels.asked_eq_nil rfl]
    exact asked_apart Request.lock?_ofGesture
      (List.forall_mem_singleton.mpr (Request.call?_apart calls))
  | slid slid => cases slid <;> exact ⟨rfl, rfl⟩

/-- **A step arms the hold under one lock, or asks for none and leaves the hold as it is.** -/
theorem ends_holding (ends : (core.step entry.step).Ends entry.exchanges next) :
    Holding core.hold entry next.hold := by
  cases performs : entry.step.gesture? with
  | none =>
    refine .kept ?_ ?_ (step_unarmed performs ends).1
    · unfold Entry.arms
      rw [performs]
    · exact asked_apart Request.lock?_ofGesture (Core.step_apart core performs _ _ ends).1
  | some gesture =>
    obtain ⟨before, performed, time, performing, course, rfl⟩ := ends_gesture performs ends
    by_cases torch : gesture = .run .torch
    · subst torch
      exact performing.holding_torch performs course
    · by_cases media : ∃ button, gesture = .run (.media button)
      · obtain ⟨button, rfl⟩ := media
        exact performing.holding_media performs course
      · have other : ∀ button, gesture ≠ .run (.media button) := fun button same =>
          media ⟨button, same⟩
        obtain ⟨unlocked, rfl⟩ := performing.holding_other torch other
        refine .kept ?_ ?_ rfl
        · unfold Entry.arms
          rw [performs]
          split
          · next same => exact absurd (Option.some.inj same) (other _)
          · next same => exact absurd (Option.some.inj same) torch
          · rfl
        · rw [course, asked_append, unlocked]
          rfl

/-- A gesture arms the hold just when it does so at some reading of the clock. -/
theorem arms_eq_isSome (ends : (core.step entry.step).Ends entry.exchanges next) :
    entry.arms = entry.armedAt?.isSome := by
  cases ends_holding ends with
  | armed time done arms armedAt =>
    rw [arms, armedAt]
    rfl
  | kept idle => rw [idle, Entry.armedAt?_of_idle idle, Option.isSome_none]

/-- **A torch gesture arms the hold just when a rear camera is known and the check for repeats is
passed.** -/
theorem arms_torch_iff (torch : entry.step = .dispatch (.run .torch))
    (ends : (core.step entry.step).Ends entry.exchanges next) :
    entry.arms = true ↔
      (core.lamp.camera.isSome = true ∨ CameraFound entry.exchanges) ∧
        ∃ check, (clockReadings entry.exchanges).head? = some check ∧
          core.hold.millis ≤ Time.elapsed core.lamp.armedAt check := by
  have arms : entry.arms = !(asked Request.torch? entry.exchanges).isEmpty := by
    unfold Entry.arms
    rw [torch]
    rfl
  rw [torch] at ends
  obtain ⟨outcome, _, known⟩ := ends_dispatchTorch ends
  rw [arms]
  cases outcome with
  | missing camera quiet =>
    rw [quiet, ← known, camera]
    exact ⟨nofun, nofun⟩
  | dropped now camera check soon quiet =>
    rw [quiet]
    refine ⟨nofun, fun ⟨_, other, read, late⟩ => ?_⟩
    obtain rfl := Option.some.inj (check.symm.trans read)
    exact absurd soon (Int.not_lt.mpr late)
  | switched now camera check late once =>
    obtain ⟨request, once⟩ := once
    rw [once]
    exact ⟨fun _ => ⟨known.mp camera, now, check, Int.not_lt.mp late⟩, fun _ => rfl⟩

end Steps

/-! ### Runs -/

section Runs

variable {σ : Type} (host : Host σ) (device : σ) (disk : Disk) (store : Settings.Store)
  (presence : Presence) (switches : Option Switches) (steps : List Step)

/-- **A run leaves the hold with the end of its last arming.** -/
theorem hold_after :
    let first := Session.opening host device disk store presence switches
    (first.after host steps).core.hold =
      { tag := holdTag
        millis := holdMillis
        endsAt := endOf (armings (first.journal host steps)) } := by
  intro first
  refine Session.keeps host (fun history core =>
    core.hold = ⟨holdTag, holdMillis, endOf (armings history)⟩) first ?_ ?_ steps
  · rw [Session.opening_core]
    rfl
  · intro history core entry next kept ends
    rw [armings_append]
    cases ends_holding ends with
    | armed time done arms armedAt course once before armed =>
      have last : armings [entry] = [time] := List.filterMap_cons_some armedAt
      unfold endOf
      rw [armed, kept, last, List.getLast?_concat]
      rfl
    | kept idle unasked same =>
      have last : armings [entry] = [] := List.filterMap_cons_none (Entry.armedAt?_of_idle idle)
      rw [same, kept, last, List.append_nil]

/-- **What the check for repeats sees is when the torch was switched last**, and the camera is known
once it has been found. -/
theorem lamp_after :
    let first := Session.opening host device disk store presence switches
    (first.after host steps).core.lamp.armedAt = lastSwitched (first.journal host steps) ∧
      ((first.after host steps).core.lamp.camera.isSome = true ↔
        CameraFound (exchangesOf (first.journal host steps))) := by
  intro first
  refine Session.keeps host (fun history core =>
    core.lamp.armedAt = lastSwitched history ∧
      (core.lamp.camera.isSome = true ↔ CameraFound (exchangesOf history))) first ?_ ?_ steps
  · rw [Session.opening_core]
    exact ⟨rfl, nofun, nofun⟩
  · intro history core entry next ⟨last, camera⟩ ends
    rw [exchangesOf_append, exchangesOf_singleton, cameraFound_append]
    by_cases torch : entry.step.part = .torch
    · rw [Step.part_eq_torch torch] at ends
      obtain ⟨outcome, _, known⟩ := ends_dispatchTorch ends
      refine ⟨?_, by rw [known, camera]⟩
      cases outcome with
      | missing _ quiet armedAt => rw [armedAt, lastSwitched_quiet history quiet, last]
      | dropped _ _ _ _ quiet armedAt => rw [armedAt, lastSwitched_quiet history quiet, last]
      | switched now _ check _ once armedAt =>
        obtain ⟨request, once⟩ := once
        rw [armedAt, lastSwitched_once history once check]
    · obtain ⟨quiet, unfound, same, armedAt, _⟩ := torch_kept torch ends
      rw [or_iff_left unfound, same, armedAt, lastSwitched_quiet history quiet]
      exact ⟨last, camera⟩

/-- Until when it was armed is known from the first arming on. -/
theorem until?_after :
    let first := Session.opening host device disk store presence switches
    (∀ time ∈ armings (first.journal host steps), Time.earliest ≤ time) →
      (first.after host steps).core.hold.until? =
        (armings (first.journal host steps)).getLast?.map (· + (holdMillis : Int)) := by
  intro first started
  refine until?_endOf started ?_
  rw [hold_after]

/-- Where no gesture arms the hold there are no armings. -/
theorem armings_eq_nil_iff (session : Session σ) :
    armings (session.journal host steps) = [] ↔
      ∀ entry ∈ session.journal host steps, entry.arms = false := by
  have arms : ∀ entry ∈ session.journal host steps, entry.arms = entry.armedAt?.isSome :=
    Session.forall_entry host _ (fun _ _ _ => arms_eq_isSome) session steps
  unfold armings
  rw [List.filterMap_eq_nil_iff]
  refine forall₂_congr fun entry member => ?_
  rw [arms entry member, Option.isSome_eq_false_iff, Option.isNone_iff_eq_none]

/-- **The hold is never armed until a time that is sooner than before.** -/
theorem until?_later (before after : List Step) :
    let first := Session.opening host device disk store presence switches
    Forward (armings (first.journal host (before ++ after))) →
      ∀ early, (first.after host before).core.hold.until? = some early →
        ∃ late, (first.after host (before ++ after)).core.hold.until? = some late ∧
          early ≤ late := by
  intro first forward early known
  have whole : armings (first.journal host (before ++ after)) =
      armings (first.journal host before) ++
        armings ((first.after host before).journal host after) := by
    rw [Session.journal_append, armings_append]
  have lapse := until?_after host device disk store presence switches (before ++ after) forward.2
  rw [whole] at forward
  rw [until?_after host device disk store presence switches before
    fun time member => forward.2 time (List.mem_append_left _ member)] at known
  obtain ⟨last, found, rfl⟩ := Option.map_eq_some_iff.mp known
  obtain ⟨late, latest, later⟩ := getLast?_le forward.1 found
  refine ⟨late + holdMillis, ?_, Int.add_le_add_right later _⟩
  rw [lapse, whole, latest]
  rfl

end Runs

/-- **The hold is in force for two seconds after each gesture that arms it, and at no other time.**
With a clock that never goes back, and whatever else it shows and the device answers, at any time
from the end of a run on: the hold is in force just if some gesture armed it within the two seconds
before. That it was armed until some time is known just from the first such gesture on, and that
time never comes any sooner. Each such gesture asks for exactly one lock, right after the reading of
the clock and before it switches the torch or sends a button; no other step asks for one. Media
gestures always arm the hold, and torch gestures when a rear camera has been found and the check for
repeats is passed. -/
theorem hold_covers {σ : Type} (host : Host σ) (device : σ) (disk : Disk) (store : Settings.Store)
    (presence : Presence) (switches : Option Switches) (steps : List Step) (now : Int)
    (forward : Forward (clockReadings (exchangesOf
      ((Session.opening host device disk store presence switches).journal host steps)) ++ [now])) :
    let first := Session.opening host device disk store presence switches
    let history := first.journal host steps
    let session := first.after host steps
    (session.core.hold.isHeld now = true ↔
      ∃ entry ∈ history, ∃ time, entry.armedAt? = some time ∧ time ≤ now ∧ now < time + 2000) ∧
    (session.core.hold.until? = none ↔ ∀ entry ∈ history, entry.arms = false) ∧
    (∀ before after, steps = before ++ after →
      ∀ early, (first.after host before).core.hold.until? = some early →
        ∃ late, session.core.hold.until? = some late ∧ early ≤ late) ∧
    ∀ step,
      let entry : Entry := ⟨step, (session.core.step step).transcript host session.device⟩
      (entry.arms = true → ∃ time done before after, entry.armedAt? = some time ∧
        entry.exchanges = before ++
          ⟨.now, time⟩ :: ⟨.perform (.wakeLock "GestureWakeLock" 2000), done⟩ :: after ∧
        asked Request.lock? (before ++ after) = [] ∧
        asked Request.torch? before = [] ∧ asked Request.media? before = []) ∧
      (entry.arms = false → asked Request.lock? entry.exchanges = []) ∧
      (step = .dispatch (.run .torch) →
        (entry.arms = true ↔ CameraFound (exchangesOf (history ++ [entry])) ∧
          ∃ check, (clockReadings entry.exchanges).head? = some check ∧
            2000 ≤ Time.elapsed (lastSwitched history) check)) := by
  intro first history session
  have hold : session.core.hold = ⟨holdTag, holdMillis, endOf (armings history)⟩ :=
    hold_after host device disk store presence switches steps
  have times : Forward (armings history ++ [now]) :=
    forward.sublist ((armings_sublist history).append (List.Sublist.refl _))
  have past : Forward (armings history) := times.sublist (List.sublist_append_left _ _)
  refine ⟨?_, ?_, ?_, fun step => ?_⟩
  · unfold Hold.isHeld
    rw [hold, decide_eq_true_iff]
    refine (lt_endOf_iff times).trans ⟨?_, ?_⟩
    · rintro ⟨time, member, window⟩
      obtain ⟨entry, here, armedAt⟩ := List.mem_filterMap.mp member
      exact ⟨entry, here, time, armedAt, window⟩
    · rintro ⟨entry, here, time, armedAt, window⟩
      exact ⟨time, List.mem_filterMap.mpr ⟨entry, here, armedAt⟩, window⟩
  · have lapse : session.core.hold.until? = _ :=
      until?_after host device disk store presence switches steps past.2
    rw [lapse, Option.map_eq_none_iff, List.getLast?_eq_none_iff]
    exact armings_eq_nil_iff host steps first
  · rintro before after rfl
    exact until?_later host device disk store presence switches before after past
  · intro entry
    have ends : (session.core.step entry.step).Ends entry.exchanges (session.next host step).core :=
      ends_run host _ session.device
    have holding := ends_holding ends
    rw [hold] at holding
    refine ⟨fun arms => ?_, fun idle => ?_, fun torch => ?_⟩
    · cases holding with
      | @armed time done before after _ armedAt course once first =>
        exact ⟨time, done, before, after, armedAt, course, once, first⟩
      | kept idle => cases arms.symm.trans idle
    · cases holding with
      | armed _ _ arms => cases arms.symm.trans idle
      | kept _ unasked => exact unasked
    · obtain ⟨last, camera⟩ := lamp_after host device disk store presence switches steps
      have millis : session.core.hold.millis = holdMillis := congrArg Hold.millis hold
      have passed := arms_torch_iff torch ends
      rw [millis] at passed
      rw [exchangesOf_append, exchangesOf_singleton, cameraFound_append, ← camera, ← last]
      exact passed

/-- On a bench whose clock moves on only while a button is sent, a torch gesture and two media
gestures arm the hold, and the second torch gesture in between is dropped. The last arming keeps it
in force a millisecond before its two seconds are over. -/
theorem hold_covers_on_bench :
    let first := Session.opening Bench.host { clock := 0, mediaMillis := 600 } {} {} {} none
    let steps : List Step :=
      [.dispatch (.run .torch), .dispatch (.run (.media .playPause)), .dispatch (.run .torch),
        .dispatch (.run (.media .next))]
    Forward (clockReadings (exchangesOf (first.journal Bench.host steps)) ++ [3199]) ∧
      armings (first.journal Bench.host steps) = [0, 0, 1200] ∧
      (first.after Bench.host steps).core.hold.until? = some 3200 ∧
      ∃ entry ∈ first.journal Bench.host steps, ∃ time, entry.armedAt? = some time ∧
        time ≤ 3199 ∧ 3199 < time + 2000 :=
  ⟨by decide, by decide, by decide,
    (hold_covers Bench.host _ {} {} {} none _ 3199 (by decide)).1.mp (by decide)⟩

end TouchDispatch
