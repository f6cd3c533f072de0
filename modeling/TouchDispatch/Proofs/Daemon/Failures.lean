/-
**The failure of a call changes nothing but the count of pulses.**

* `pulsesSent`: the pulses that were sent in the course of some exchanges;
* `step_pulses`: **a step counts exactly the pulses that it sends**;
* `Core.withPulses`: a state with another count of pulses;
* `next_agree`: on devices that agree on what decides, workshops that differ only in that count make
  the same requests, route keys alike and go on alike;
* `failures_pass`: **so do whole runs, however the other calls fail.**
-/

import TouchDispatch.Proofs.Daemon.Diary

namespace TouchDispatch

open Dialogue
open Settings (Store)

/-! ### Pulses -/

/-- Whether a pulse was sent. -/
def Exchange.isPulse : Exchange → Bool
  | ⟨.perform .pulse, sent⟩ => sent
  | _ => false

/-- The number of pulses that were sent in the course of some exchanges. -/
def pulsesSent (exchanges : List Exchange) : Nat :=
  exchanges.countP Exchange.isPulse

@[simp]
theorem pulsesSent_append (before after : List Exchange) :
    pulsesSent (before ++ after) = pulsesSent before + pulsesSent after :=
  List.countP_append

/-- What is not about waking the screen sends no pulse. -/
theorem pulsesSent_about {matter : Matter} {exchanges : List Exchange} (other : matter ≠ .waking)
    (about : ∀ exchange ∈ exchanges, About matter exchange.request) : pulsesSent exchanges = 0 := by
  refine List.countP_eq_zero.mpr fun exchange member sent => ?_
  unfold Exchange.isPulse at sent
  split at sent
  · rcases about _ member with here | here
    · exact other here.symm
    · cases here
  · cases sent

namespace Core

/-- How often the screen was woken. -/
def pulses (core : Core) : Nat :=
  core.status.counters.dozePulses

/-- The state with another count of pulses. -/
def withPulses (core : Core) (dozePulses : Nat) : Core :=
  core.withStatus fun status => { status with counters := { status.counters with dozePulses } }

variable {core next : Core} {exchanges : List Exchange}

/-- A pulse is counted if it was sent. -/
theorem ends_pulse_counted (ends : core.pulse.Ends exchanges next) :
    next.pulses = core.pulses + pulsesSent exchanges := by
  obtain ⟨_, sent, _, pulsed, final, rfl⟩ := ends_bind_iff.mp ends
  rw [ends_perform_iff.mp pulsed]
  cases sent with
  | false =>
    obtain ⟨rfl, rfl⟩ := ends_pure_iff.mp final
    rfl
  | true =>
    obtain ⟨rfl, rfl⟩ := ends_pure_iff.mp final
    rfl

/-- A sensor that reports may wake the screen, after the clock was read. -/
theorem ends_woken (sensed : Int → Core) {wakes : Int → Bool}
    (quiet : ∀ now, (sensed now).pulses = core.pulses)
    (ends : (do
      let now ← Dialogue.now
      if wakes now then (sensed now).pulse else return sensed now : Dialogue Core).Ends
        exchanges next) : next.pulses = core.pulses + pulsesSent exchanges := by
  obtain ⟨_, now, _, clock, rest, rfl⟩ := ends_bind_iff.mp ends
  rw [ends_now_iff.mp clock, pulsesSent_append, ← quiet now]
  have none : pulsesSent [⟨.now, now⟩] = 0 := rfl
  rw [none, Nat.zero_add]
  split at rest
  · exact ends_pulse_counted rest
  · obtain ⟨rfl, rfl⟩ := ends_pure_iff.mp rest
    rfl

/-- **A step counts exactly the pulses that it sends.** -/
theorem step_pulses {step : Step} (ends : (core.step step).Ends exchanges next) :
    next.pulses = core.pulses + pulsesSent exchanges := by
  by_cases waking : step.matter = .waking
  · cases step with
    | report event =>
      obtain ⟨answer, handled, rfl⟩ := ends_map_iff.mp ends
      cases event with
      | proximity sample =>
        obtain ⟨next, reported, rfl⟩ := ends_map_iff.mp handled
        refine ends_woken (core.sampled sample ·) (fun now => ?_) reported
        unfold sampled
        dsimp only
        split
        · rfl
        · rfl
      | tilt triggered =>
        obtain ⟨next, reported, rfl⟩ := ends_map_iff.mp handled
        exact ends_woken
          (fun now => { core with sensors := (core.sensors.tilt triggered now).2 })
          (fun now => rfl) reported
      | display | torchMode | torchGone | settingsChanged | shutdown => cases waking
    | key event =>
      change (if event.position?.isSome then Matter.mode else .other) = .waking at waking
      split at waking
      · cases waking
      · cases waking
    | dispatch gesture => cases gesture <;> cases waking
    | deliver | take | settings => cases waking
  · obtain ⟨about, kept⟩ := step_about core step exchanges next ends
    rw [pulsesSent_about waking about]
    exact kept waking

end Core

/-! ### Two workshops -/

/-- Two states that differ only in the count of pulses. -/
def Unseen.SameButPulses (one two : Unseen) : Prop :=
  two = { one with dozePulses := two.dozePulses }

theorem sameButPulses_stable : Stable Unseen.SameButPulses := by
  constructor
  case armed =>
    intro one two endsAt same
    unfold Unseen.SameButPulses at same ⊢
    rw [same]
  case recorded =>
    intro one two gesture now same
    unfold Unseen.SameButPulses at same ⊢
    rw [same]
    rfl

theorem sameButPulses_woken : Woken Unseen.SameButPulses := by
  intro one two first second same
  unfold Unseen.SameButPulses at same ⊢
  rw [same]
  rfl

/-- Two states that are alike but for the count of pulses. -/
theorem Core.eq_withPulses {one two : Core} (alike : one.Alike Unseen.SameButPulses two) :
    two = one.withPulses two.pulses := by
  obtain ⟨unseen, rfl, here⟩ := alike
  unfold Unseen.SameButPulses at here
  rw [here]
  rfl

/-- What is requested and what becomes of a key when something happens. -/
def Line.seen (line : Line) : List Request × Option Route :=
  (requests line.exchanges, line.route)

/-- The daemon comes up alike on all devices. -/
theorem overture_beside (disk : Disk) (store : Store) (presence : Presence)
    (switches : Option Switches) :
    Beside (About .other) Eq (Session.overture disk store presence switches)
      (Session.overture disk store presence switches) := by
  have gated : ∀ core : Core, Beside (About .other) Eq core.refreshGate core.refreshGate :=
    fun core => .bind (.perform (Core.about_other rfl)) fun _ _ _ => .pure rfl
  exact .map (.map (.map (gated _)))

namespace Workshop

section Agreeing

variable {σ τ : Type} {like : σ → τ → Prop} {host : Host σ} {other : Host τ}
  {one : Workshop σ} {two : Workshop τ}

variable (agree : host.Agree (·.decides = true) like other)
  (devices : like one.device two.device)
  (alike : one.Alike Unseen.SameButPulses two)
include agree devices alike

/-- **Whatever happens, the same is requested and keys are routed alike**, and workshops that differ
only in the count of pulses go on so. -/
theorem next_agree (shift : Shift) :
    (one.line host shift).seen = (two.line other shift).seen ∧
      like (one.next host shift).device (two.next other shift).device ∧
      (one.next host shift).Alike Unseen.SameButPulses (two.next other shift) := by
  have stepped := fun step => (Core.step_alike step sameButPulses_stable
    (fun _ => sameButPulses_woken) alike.core).run_agree (fun _ _ => id) agree devices
  refine ⟨Prod.ext ?_ ?_, ?_, alike.next fun step _ => (stepped step).1⟩
  · show requests (one.exchanges host shift) = requests (two.exchanges other shift)
    unfold exchanges
    rw [alike.step? shift]
    cases one.step? shift with
    | none => rfl
    | some step => exact requests_congr (stepped step).2.2
  · show one.route? host shift = two.route? other shift
    cases shift with
    | key event =>
      have routed := (Core.route_alike sameButPulses_stable alike.core event).run_agree
        (fun _ _ => id) agree devices
      exact congrArg some routed.1.1
    | _ => rfl
  · have also := alike.step? shift
    cases called : one.step? shift with
    | none =>
      rw [(next_of_idle called).1, (next_of_idle (also.trans called)).1]
      exact devices
    | some step =>
      rw [(next_of_step called).2, (next_of_step (also.trans called)).2]
      exact (stepped step).2.1

/-- **So do whole runs.** -/
theorem after_agree (shifts : List Shift) :
    (one.diary host shifts).map Line.seen = (two.diary other shifts).map Line.seen ∧
      (one.after host shifts).Alike Unseen.SameButPulses (two.after other shifts) := by
  induction shifts generalizing one two with
  | nil => exact ⟨rfl, alike⟩
  | cons shift rest ih =>
    obtain ⟨seen, later, next⟩ := next_agree agree devices alike shift
    obtain ⟨others, final⟩ := ih later next
    exact ⟨congrArg₂ List.cons seen others, final⟩

end Agreeing

section Counting

variable {σ : Type} (host : Host σ) (shop : Workshop σ)

/-- All that is exchanged while things happen. -/
def exchanged (shifts : List Shift) : List Exchange :=
  (shop.diary host shifts).flatMap Line.exchanges

theorem next_pulses (shift : Shift) :
    (shop.next host shift).core.pulses =
      shop.core.pulses + pulsesSent (shop.exchanges host shift) := by
  unfold exchanges
  cases called : shop.step? shift with
  | some step =>
    rw [(next_of_step called).1]
    exact Core.step_pulses (ends_run host _ shop.device)
  | none =>
    obtain ⟨slot, same⟩ : ∃ slot, (shop.next host shift).core = { shop.core with slot } :=
      (next_of_idle called).2
    rw [same]
    rfl

/-- **The pulses that were sent are counted.** -/
theorem after_pulses (shifts : List Shift) :
    (shop.after host shifts).core.pulses =
      shop.core.pulses + pulsesSent (shop.exchanged host shifts) := by
  induction shifts generalizing shop with
  | nil => rfl
  | cons shift rest ih =>
    have whole : shop.exchanged host (shift :: rest) =
        shop.exchanges host shift ++ (shop.next host shift).exchanged host rest := rfl
    rw [whole, pulsesSent_append, ← Nat.add_assoc, ← next_pulses]
    exact ih _

end Counting

end Workshop

/-- **The failure of a call changes nothing but the count of pulses.** Two devices answer all
questions alike and switch the torch alike, but any other call may fail on one of them and not on
the other. Then the daemon makes the same requests on both, at its start and whenever anything
happens, and routes every key alike; what waits, what is being performed and the whole state of the
daemon are the same but for the pulses, and of these exactly those are counted that were sent. -/
theorem failures_pass {σ τ : Type} {like : σ → τ → Prop} (host : Host σ) (other : Host τ)
    (agree : host.Agree (·.decides = true) like other) (device : σ) (counterpart : τ)
    (alike : like device counterpart)
    (disk : Disk) (store : Store) (presence : Presence) (switches : Option Switches)
    (shifts : List Shift) :
    let overture := Session.overture disk store presence switches
    let one := Workshop.opening host device disk store presence switches
    let two := Workshop.opening other counterpart disk store presence switches
    let first := one.after host shifts
    let second := two.after other shifts
    requests (overture.transcript host device) = requests (overture.transcript other counterpart) ∧
    (one.diary host shifts).map Line.seen = (two.diary other shifts).map Line.seen ∧
    second.hand = first.hand ∧ second.taken = first.taken ∧
    second.core = first.core.withPulses second.core.pulses ∧
    first.core.pulses = pulsesSent (one.exchanged host shifts) ∧
    second.core.pulses = pulsesSent (two.exchanged other shifts) := by
  intro overture one two first second
  obtain ⟨core, devices, called⟩ :=
    (overture_beside disk store presence switches).run_agree (fun _ _ => id) agree alike
  have begun : one.core = Session.begun disk store presence switches :=
    Session.opening_core host device disk store presence switches
  have start : one.Alike Unseen.SameButPulses two :=
    ⟨⟨one.core.unseen, core.symm, rfl⟩, rfl, rfl⟩
  obtain ⟨seen, final⟩ := Workshop.after_agree agree devices start shifts
  have none : one.core.pulses = 0 := by
    rw [begun]
    rfl
  have nothing : two.core.pulses = 0 := by
    rw [← none]
    exact congrArg Core.pulses core.symm
  refine ⟨requests_congr called, seen, final.hand, final.taken, Core.eq_withPulses final.core,
    ?_, ?_⟩
  · rw [one.after_pulses host shifts, none, Nat.zero_add]
  · rw [two.after_pulses other shifts, nothing, Nat.zero_add]

/-- On a bench on which nearly everything fails, the daemon asks for the same as on one on which
nothing does: a title is skipped, which takes three seconds, and then the phone is tilted. -/
theorem failures_pass_on_benches :
    let table : Settings.Table := [
      (Settings.dozeName, .text "false:false:true"), (Settings.feedbackName, .bool true)]
    let sound : Bench := { mediaMillis := 3000 }
    let broken : Bench := { sound with failing :=
      [.mediaDown, .mediaUp, .pulse, .wakeLock, .wakeUp, .launch, .vibrate, .keypad] }
    let shifts : List Shift := [.report (.display false),
      .key (.release (Key.drawn .rightV).scanCode), .take, .finish, .report (.tilt true)]
    let presence : Presence := { tilt := true }
    let one := Workshop.opening Bench.host sound {} { table } presence none
    let two := Workshop.opening Bench.host broken {} { table } presence none
    (one.diary Bench.host shifts).map Line.seen = (two.diary Bench.host shifts).map Line.seen ∧
      ((one.diary Bench.host shifts).map Line.seen).flatMap Prod.fst = [
        .now, .perform (.listenProximity false), .perform (.listenTilt (some 100)),
        .musicActive, .now,
        .perform (.vibrate .click), .now, .perform (.wakeLock "GestureWakeLock" 2000), .systemReady,
        .now, .perform (.media ⟨.next, .down, 10000, 10000⟩),
        .now, .perform (.media ⟨.next, .up, 10000, 13000⟩), .now,
        .now, .perform .pulse] ∧
      (one.after Bench.host shifts).core.pulses = 1 ∧
      (two.after Bench.host shifts).core.pulses = 0 := by
  intro table sound broken shifts presence one two
  have akin : sound.Akin broken := ⟨rfl, rfl, rfl, rfl, rfl, rfl, rfl⟩
  obtain ⟨_, seen, _⟩ := failures_pass Bench.host Bench.host Bench.agree_of_akin sound broken akin
    {} { table } presence none shifts
  exact ⟨seen, by decide +kernel, by decide +kernel, by decide +kernel⟩

end TouchDispatch
