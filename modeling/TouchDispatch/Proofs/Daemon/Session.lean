/-
**Everything that can happen to the daemon, step by step.**

* `Step`: a key, a report, a change of the settings that reaches the daemon, a look at the waiting
  gesture, a gesture that is performed, a deed on the settings;
* `Core.step`: what one step does;
* `ends_deliver_none`, `ends_deliver_some`, `ends_reportChange`: what reading a change comes to;
* `Session`: the daemon together with its device, whatever that answers;
* `Session.journal`: the steps of a run, each with what was exchanged in its course;
* `Session.moments`: the same with the daemon that each step happened to;
* `Session.keeps`: **what every step keeps, a whole run keeps.**

The steps come in any order. A change of the settings reaches the daemon from anywhere among those
that a listener has not been told yet, so it may come late and out of its turn.
-/

import Mathlib.Data.List.Induction
import TouchDispatch.Daemon.Sense
import TouchDispatch.Proofs.Device.Course
import TouchDispatch.Proofs.Settings.Deed

namespace TouchDispatch

open Dialogue (ends_bind_iff ends_map_iff ends_pure_iff ends_perform_iff ends_run)
open Settings (Change Deed Store Table)

/-- Something that happens to the daemon. -/
inductive Step where
  /-- A key event is routed. -/
  | key (event : KeyEvent)
  /-- Something is reported. -/
  | report (event : Event)
  /-- The change at a place among those that a listener has not read yet reaches the daemon. -/
  | deliver (listener place : Nat)
  /-- The waiting gesture is taken out of its slot. -/
  | take
  /-- A gesture is performed. -/
  | dispatch (gesture : Gesture)
  /-- Somebody works on the settings. -/
  | settings (deed : Deed)

namespace Core

/-- Handles the change at a place among those that a listener has not read yet, if there is one. -/
def deliver (core : Core) (listener place : Nat) : Dialogue Core :=
  match (core.store.unread listener)[place]? with
  | none => return core
  | some change => do
    let waiting := { core with store := core.store.handOut listener place }
    let (_, core) ← waiting.handle (.settingsChanged change)
    return core

/-- What one step does. -/
def step (core : Core) : Step → Dialogue Core
  | .key event => do
    let (_, core) ← core.route event
    return core
  | .report event => do
    let (_, core) ← core.handle event
    return core
  | .deliver listener place => core.deliver listener place
  | .take => return { core with slot := core.slot.tryTake.2 }
  | .dispatch gesture => core.dispatch gesture
  | .settings deed =>
    let (store, disk) := deed.apply core.store core.disk
    return { core with store, disk }

end Core

section Changes

variable {core next : Core} {exchanges : List Exchange} {change : Change}

theorem ends_deliver_none {other place : Nat} (found : (core.store.unread other)[place]? = none)
    (ends : (core.step (.deliver other place)).Ends exchanges next) :
    exchanges = [] ∧ next = core := by
  change (core.deliver other place).Ends exchanges next at ends
  unfold Core.deliver at ends
  rw [found] at ends
  exact ends_pure_iff.mp ends

theorem ends_deliver_some {other place : Nat}
    (found : (core.store.unread other)[place]? = some change)
    (ends : (core.step (.deliver other place)).Ends exchanges next) :
    ({ core with store := core.store.handOut other place }.settingsChanged change).Ends
      exchanges next := by
  change (core.deliver other place).Ends exchanges next at ends
  unfold Core.deliver at ends
  rw [found] at ends
  obtain ⟨answer, handled, rfl⟩ := ends_map_iff.mp ends
  obtain ⟨next, changed, rfl⟩ := ends_map_iff.mp handled
  exact changed

theorem ends_reportChange
    (ends : (core.step (.report (.settingsChanged change))).Ends exchanges next) :
    (core.settingsChanged change).Ends exchanges next := by
  obtain ⟨answer, handled, rfl⟩ := ends_map_iff.mp ends
  obtain ⟨next, changed, rfl⟩ := ends_map_iff.mp handled
  exact changed

end Changes

/-- A step, and what is exchanged in its course. -/
structure Entry where
  step : Step
  exchanges : List Exchange

/-- All that is exchanged in the course of a journal. -/
def exchangesOf (journal : List Entry) : List Exchange :=
  journal.flatMap Entry.exchanges

@[simp]
theorem exchangesOf_nil : exchangesOf [] = [] := rfl

@[simp]
theorem exchangesOf_append (before after : List Entry) :
    exchangesOf (before ++ after) = exchangesOf before ++ exchangesOf after :=
  List.flatMap_append

@[simp]
theorem exchangesOf_singleton (entry : Entry) : exchangesOf [entry] = entry.exchanges :=
  List.flatMap_singleton _ _

theorem asked_exchangesOf {β : Type} {kind : Request → Option β} (journal : List Entry) :
    asked kind (exchangesOf journal) = journal.flatMap fun entry => asked kind entry.exchanges :=
  List.filterMap_flatMap

/-- A step, what is exchanged in its course, and the daemon that it happens to. -/
structure Moment extends Entry where
  core : Core

/-- The daemon together with its device. -/
structure Session (σ : Type) where
  core : Core
  device : σ

namespace Session

variable {σ : Type} (host : Host σ)

/-- The session after a step. -/
def next (session : Session σ) (step : Step) : Session σ :=
  let outcome := (session.core.step step).run host session.device
  ⟨outcome.1, outcome.2⟩

/-- The session after some steps. -/
def after (session : Session σ) (steps : List Step) : Session σ :=
  steps.foldl (next host) session

/-- The steps of a run, each with what is exchanged in its course. -/
def journal (session : Session σ) : List Step → List Entry
  | [] => []
  | step :: rest =>
    ⟨step, (session.core.step step).transcript host session.device⟩ ::
      (session.next host step).journal rest

/-- The steps of a run, each with the daemon that it happened to. -/
def moments (session : Session σ) : List Step → List Moment
  | [] => []
  | step :: rest =>
    ⟨⟨step, (session.core.step step).transcript host session.device⟩, session.core⟩ ::
      (session.next host step).moments rest

/-- How the daemon comes up: it starts, and then listens to the store. -/
def overture (disk : Disk) (store : Store) (presence : Presence) (switches : Option Switches) :
    Dialogue Core := do
  let core ← Core.start disk store presence switches
  return { core with store := core.store.subscribe.2 }

/-- The session in which the daemon has just come up. -/
def opening (device : σ) (disk : Disk) (store : Store) (presence : Presence)
    (switches : Option Switches) : Session σ :=
  let outcome := (overture disk store presence switches).run host device
  ⟨outcome.1, outcome.2⟩

/-- The daemon that has just come up. -/
def begun (disk : Disk) (store : Store) (presence : Presence) (switches : Option Switches) : Core :=
  { store := store.subscribe.2
    disk := (switches.map fun panel => (panel.sync disk store.table).2.2).getD disk
    switches := switches.map fun panel => (panel.sync disk store.table).2.1
    keysDisabled := Settings.keysDisabled store.table
    proximityCheck := Settings.proximityCheck store.table
    sensors :=
      { presence
        features := Settings.doze store.table
        proximityCheck := Settings.proximityCheck store.table }
    status :=
      { settingsRevision := store.revision
        keysDisabled := Settings.keysDisabled store.table
        sensors := { proximityPresent := presence.proximity, tiltPresent := presence.tilt } } }

/-- **The daemon comes up by setting the keypad, and by nothing else.** -/
theorem ends_overture {disk : Disk} {store : Store} {presence : Presence}
    {switches : Option Switches} {exchanges : List Exchange} {core : Core}
    (ends : (overture disk store presence switches).Ends exchanges core) :
    (∃ done, exchanges = [⟨.perform (.keypad (!Settings.keysDisabled store.table)), done⟩]) ∧
      core = begun disk store presence switches := by
  obtain ⟨_, started, _, start, final, rfl⟩ := ends_bind_iff.mp ends
  obtain ⟨_, shown, _, keys, filled, rfl⟩ := ends_bind_iff.mp start
  obtain ⟨_, gated, _, gate, display, rfl⟩ := ends_bind_iff.mp keys
  obtain ⟨_, done, _, keypad, copied, rfl⟩ := ends_bind_iff.mp gate
  obtain ⟨rfl, rfl⟩ := ends_pure_iff.mp copied
  obtain ⟨rfl, rfl⟩ := ends_pure_iff.mp display
  obtain ⟨rfl, rfl⟩ := ends_pure_iff.mp filled
  obtain ⟨rfl, rfl⟩ := ends_pure_iff.mp final
  rw [ends_perform_iff.mp keypad]
  refine ⟨⟨done, rfl⟩, ?_⟩
  cases switches with
  | none => rfl
  | some panel => rfl

theorem opening_core {σ : Type} (host : Host σ) (device : σ) (disk : Disk) (store : Store)
    (presence : Presence) (switches : Option Switches) :
    (opening host device disk store presence switches).core = begun disk store presence switches :=
  (ends_overture (ends_run host _ device)).2

/-! ### Runs -/

theorem after_concat (session : Session σ) (steps : List Step) (step : Step) :
    session.after host (steps ++ [step]) = (session.after host steps).next host step :=
  List.foldl_append

theorem journal_append (session : Session σ) (before after : List Step) :
    session.journal host (before ++ after) =
      session.journal host before ++ (session.after host before).journal host after := by
  induction before generalizing session with
  | nil => rfl
  | cons first rest ih => exact congrArg (List.cons _) (ih (session.next host first))

theorem journal_concat (session : Session σ) (steps : List Step) (step : Step) :
    session.journal host (steps ++ [step]) =
      session.journal host steps ++
        [⟨step, ((session.after host steps).core.step step).transcript host
          (session.after host steps).device⟩] :=
  session.journal_append host steps [step]

/-- **What every step keeps, a whole run keeps.** The property is one of the state and of the
journal that led to it. -/
theorem keeps (property : List Entry → Core → Prop) (session : Session σ)
    (start : property [] session.core)
    (each : ∀ history core entry next, property history core →
      (core.step entry.step).Ends entry.exchanges next → property (history ++ [entry]) next)
    (steps : List Step) :
    property (session.journal host steps) (session.after host steps).core := by
  induction steps using List.reverseRec with
  | nil => exact start
  | append_singleton steps step ih =>
    rw [after_concat, journal_concat]
    exact each _ _ _ _ ih (Dialogue.ends_run host _ _)

/-- What holds of every step, whatever the daemon is like, holds of every moment of a run. -/
theorem forall_moment (property : Moment → Prop)
    (each : ∀ moment next,
      (moment.core.step moment.step).Ends moment.exchanges next → property moment)
    (session : Session σ) (steps : List Step) :
    ∀ moment ∈ session.moments host steps, property moment := by
  induction steps generalizing session with
  | nil => exact List.forall_mem_nil _
  | cons step rest ih =>
    exact List.forall_mem_cons.mpr ⟨each _ _ (Dialogue.ends_run host _ _), ih _⟩

theorem moments_journal (session : Session σ) (steps : List Step) :
    (session.moments host steps).map Moment.toEntry = session.journal host steps := by
  induction steps generalizing session with
  | nil => rfl
  | cons step rest ih => exact congrArg (List.cons _) (ih _)

/-- The same of every entry of a journal. -/
theorem forall_entry (property : Entry → Prop)
    (each : ∀ (core : Core) entry next,
      (core.step entry.step).Ends entry.exchanges next → property entry)
    (session : Session σ) (steps : List Step) :
    ∀ entry ∈ session.journal host steps, property entry := by
  rw [← moments_journal]
  exact List.forall_mem_map.mpr (session.forall_moment host (fun moment => property moment.toEntry)
    (fun moment next ends => each moment.core moment.toEntry next ends) steps)

end Session

end TouchDispatch
