/-
**Copies of settings follow the store.**

Five places keep what they read from the store once: the gate of the navigation keys, together with
the keypad and what is shown of it, the proximity check of the keys, the two settings of the
sensors, and the switches of the panel.

* `Core.syncs`: the steps that set the switches of the panel;
* `Coherent`: every copy is fresh;
* `Coherent.refresh`, `Coherent.told`, `Coherent.kept`: a change arrives, the settings change, or
  something else happens;
* `coherent_step`: every step keeps the copies fresh;
* `copies_follow_store`: **from the start every copy is fresh after every step.** Once all changes
  have arrived, every copy says what the store says.
-/

import TouchDispatch.Device.Bench
import TouchDispatch.Proofs.Daemon.Frame
import TouchDispatch.Proofs.Settings.Copy
import TouchDispatch.Proofs.Settings.Reading

namespace TouchDispatch

open Dialogue
open Settings (Change Deed Fresh Store Table Told)

/-- Whether a step sets the switches of the panel. -/
def Core.syncs (core : Core) : Step → Bool
  | .report (.settingsChanged change) => change.touchesBindings
  | .deliver listener place =>
    (core.store.unread listener)[place]?.any Change.touchesBindings
  | _ => false

/-- Every copy is fresh. The switches of the panel are as they were in the state `synced`, and
what that state said of the channels is fresh. -/
structure Coherent (listener : Nat) (exchanges : List Exchange) (synced core : Core) : Prop where
  hears : core.store.Hears listener
  gate : Fresh core.store listener Settings.keysDisabledName Settings.keysDisabled core.keysDisabled
  /-- What is shown of the gate is the gate. -/
  shown : core.status.keysDisabled = core.keysDisabled
  /-- The keypad was told to work last exactly if the gate is open. -/
  keypad : (asked Request.keypad? exchanges).getLast? = some (!core.keysDisabled)
  check : Fresh core.store listener Settings.proximityCheckName Settings.proximityCheck
    core.proximityCheck
  features : Fresh core.store listener Settings.dozeName Settings.doze core.sensors.features
  sensorCheck : Fresh core.store listener Settings.proximityCheckName Settings.proximityCheck
    core.sensors.proximityCheck
  switches : core.switches = synced.switches
  channels : ∀ channel, Fresh core.store listener (Settings.bindingName channel)
    (Switches.isOn · channel) (Switches.isOn synced.table channel)

/-- Every copy says what the store says now. The switches of the panel are as they were in the state
`synced`, which called for the same switches to be on. -/
structure Current (exchanges : List Exchange) (synced core : Core) : Prop where
  gate : core.keysDisabled = Settings.keysDisabled core.table
  shown : core.status.keysDisabled = Settings.keysDisabled core.table
  keypad : (asked Request.keypad? exchanges).getLast? = some (!Settings.keysDisabled core.table)
  check : core.proximityCheck = Settings.proximityCheck core.table
  features : core.sensors.features = Settings.doze core.table
  sensorCheck : core.sensors.proximityCheck = Settings.proximityCheck core.table
  switches : core.switches = synced.switches
  targets : ∀ panel : Switches, panel.targets synced.table = panel.targets core.table

theorem touchesBindings_of_touches {change : Change} {channel : Channel}
    (touches : change.touches (Settings.bindingName channel) = true) :
    change.touchesBindings = true := by
  refine List.any_eq_true.mpr ⟨_, List.contains_iff_mem.mp touches, ?_⟩
  rw [List.isPrefixOf_iff_prefix]
  unfold Settings.bindingName
  rw [String.toList_append]
  exact List.prefix_append _ _

namespace Coherent

variable {listener : Nat} {earlier exchanges : List Exchange} {synced core next : Core}

/-- Whatever leaves the copies alone keeps them fresh. -/
theorem kept (coherent : Coherent listener earlier synced core) (copies : next.copies = core.copies)
    (silent : ∀ exchange ∈ exchanges, exchange.request.part ≠ .keypad) :
    Coherent listener (earlier ++ exchanges) synced next := by
  simp only [Core.copies, Copies.mk.injEq] at copies
  obtain ⟨store, gate, shown, check, features, sensorCheck, switches⟩ := copies
  have quiet : asked Request.keypad? exchanges = [] :=
    asked_eq_nil fun exchange member => Request.keypad?_eq_none (silent exchange member)
  constructor
  case hears => exact store ▸ coherent.hears
  case gate => exact store ▸ gate ▸ coherent.gate
  case shown => rw [shown, gate, coherent.shown]
  case keypad => rw [asked_append, quiet, List.append_nil, gate, coherent.keypad]
  case check => exact store ▸ check ▸ coherent.check
  case features => exact store ▸ features ▸ coherent.features
  case sensorCheck => exact store ▸ sensorCheck ▸ coherent.sensorCheck
  case switches => rw [switches, coherent.switches]
  case channels => exact store ▸ coherent.channels

/-- A deed on the settings leaves every copy as it is, and announces what it changes. -/
theorem told (coherent : Coherent listener earlier synced core) {store : Store} {disk : Disk}
    {news : List Change} (told : Told core.store store news) :
    Coherent listener earlier synced { core with store, disk } := by
  have hears : core.store.Hears listener := coherent.hears
  constructor
  case hears => exact Settings.hears_told told hears
  case gate => exact coherent.gate.told told hears Settings.keysDisabled_congr
  case shown => exact coherent.shown
  case keypad => exact coherent.keypad
  case check => exact coherent.check.told told hears Settings.proximityCheck_congr
  case features => exact coherent.features.told told hears Settings.doze_congr
  case sensorCheck => exact coherent.sensorCheck.told told hears Settings.proximityCheck_congr
  case switches => exact coherent.switches
  case channels =>
    exact fun channel => (coherent.channels channel).told told hears Settings.isOn_congr

/-- A change that arrives, in whatever order, refreshes the copies that it touches. -/
theorem refresh (coherent : Coherent listener earlier synced core) {store : Store} {change : Change}
    (table : store.table = core.store.table) (hears : store.Hears listener)
    (left : ∀ other ∈ core.store.unread listener, other ∈ store.unread listener ∨ other = change)
    (ends : ({ core with store }.settingsChanged change).Ends exchanges next) :
    Coherent listener (earlier ++ exchanges) (if change.touchesBindings then next else synced)
      next := by
  obtain ⟨rfl, done, rfl⟩ := Core.ends_settingsChanged ends
  have again : (change.touches Settings.dozeName = true → (change.touches Settings.dozeName ||
        change.touches Settings.proximityCheckName) = true) ∧
      (change.touches Settings.proximityCheckName = true → (change.touches Settings.dozeName ||
        change.touches Settings.proximityCheckName) = true) :=
    ⟨fun touches => by rw [touches, Bool.true_or], fun touches => by rw [touches, Bool.or_true]⟩
  constructor
  case hears => exact hears
  case gate => exact coherent.gate.refresh table left id
  case shown =>
    show (if change.touches Settings.keysDisabledName then Settings.keysDisabled store.table
      else core.status.keysDisabled) = _
    rw [coherent.shown]
    rfl
  case keypad =>
    show _ = some (!if change.touches Settings.keysDisabledName then
      Settings.keysDisabled store.table else core.keysDisabled)
    split
    · rw [asked_append]
      exact List.getLast?_concat
    · rw [List.append_nil]
      exact coherent.keypad
  case check => exact coherent.check.refresh table left id
  case features =>
    rw [Core.refreshed_features]
    exact coherent.features.refresh table left again.1
  case sensorCheck =>
    rw [Core.refreshed_sensorCheck]
    exact coherent.sensorCheck.refresh table left again.2
  case switches =>
    split
    · rfl
    · next untouched =>
      refine Eq.trans ?_ coherent.switches
      exact if_neg untouched
  case channels =>
    intro channel
    have fresh := (coherent.channels channel).refresh table left touchesBindings_of_touches
    split
    · exact Or.inl rfl
    · next untouched =>
      rw [if_neg untouched] at fresh
      exact fresh

/-- **Once all changes have arrived, every copy says what the store says.** -/
theorem current (coherent : Coherent listener earlier synced core)
    (read : core.store.unread listener = []) : Current earlier synced core := by
  have gate : core.keysDisabled = Settings.keysDisabled core.table := coherent.gate.current read
  have on : ∀ channel, Switches.isOn synced.table channel = Switches.isOn core.table channel :=
    fun channel => (coherent.channels channel).current read
  constructor
  case gate => exact gate
  case shown => rw [coherent.shown, gate]
  case keypad => rw [coherent.keypad, gate]
  case check => exact coherent.check.current read
  case features => exact coherent.features.current read
  case sensorCheck => exact coherent.sensorCheck.current read
  case switches => exact coherent.switches
  case targets =>
    intro panel
    unfold Switches.targets
    rw [on, on, on, on, on]

end Coherent

/-! ### Steps and runs -/

section Runs

variable {listener : Nat} {earlier exchanges : List Exchange} {synced core next : Core}

theorem syncs_other {step : Step} (other : step.part ≠ .keypad) : core.syncs step = false := by
  unfold Core.syncs
  split
  · exact absurd rfl other
  · exact absurd rfl other
  · rfl

/-- **Every step keeps the copies fresh.** After a step that sets the switches of the panel, these
are as the settings of that moment want them. -/
theorem coherent_step (coherent : Coherent listener earlier synced core) {step : Step}
    (ends : (core.step step).Ends exchanges next) :
    Coherent listener (earlier ++ exchanges) (if core.syncs step then next else synced) next := by
  by_cases keys : step.part = .keypad
  · cases step with
    | report event =>
      cases event with
      | settingsChanged change =>
        refine coherent.refresh rfl coherent.hears ?_ (ends_reportChange ends)
        exact fun other unread => Or.inl unread
      | _ => cases keys
    | deliver other place =>
      have syncs : core.syncs (.deliver other place) =
        (core.store.unread other)[place]?.any Change.touchesBindings := rfl
      rw [syncs]
      cases found : (core.store.unread other)[place]? with
      | none =>
        obtain ⟨rfl, rfl⟩ := ends_deliver_none found ends
        rw [List.append_nil]
        exact coherent
      | some change =>
        refine coherent.refresh ?_ ?_ ?_ (ends_deliver_some found ends)
        · rfl
        · exact Settings.hears_handOut.mpr coherent.hears
        · exact fun change unread => Settings.unread_handOut found unread
    | settings deed =>
      obtain ⟨rfl, rfl⟩ := ends_pure_iff.mp ends
      obtain ⟨news, told⟩ := Settings.told_apply core.store core.disk deed
      rw [List.append_nil]
      exact coherent.told told
    | key event => cases keys
    | take => cases keys
    | dispatch gesture =>
      rcases gesture with action | position
      · cases action <;> cases keys
      · cases keys
  · obtain ⟨own, frame⟩ := Core.step_frame core step exchanges next ends
    rw [syncs_other keys]
    refine coherent.kept (frame.copies keys) fun exchange member => ?_
    exact (own exchange member).ne keys nofun

/-- A step that sets the switches of the panel sets them by the settings of that moment. -/
theorem syncs_sets {step : Step} (ends : (core.step step).Ends exchanges next)
    (syncs : core.syncs step = true) :
    next.switches = core.switches.map fun panel => (panel.sync core.disk next.table).2.1 := by
  unfold Core.syncs at syncs
  split at syncs
  · next change =>
    obtain ⟨rfl, _⟩ := Core.ends_settingsChanged (ends_reportChange ends)
    exact (if_pos syncs).trans (Core.syncSwitches_switches core)
  · next other place =>
    obtain ⟨change, found, touches⟩ := (Option.any_eq_true _ _).mp syncs
    obtain ⟨rfl, _⟩ := Core.ends_settingsChanged (ends_deliver_some found ends)
    exact (if_pos touches).trans (Core.syncSwitches_switches _)
  · cases syncs

/-- All copies are fresh when the daemon has just come up. -/
theorem coherent_begun {disk : Disk} {store : Store} {presence : Presence}
    {switches : Option Switches}
    (ends : (Session.overture disk store presence switches).Ends exchanges core) :
    Coherent store.inboxes.length exchanges core core := by
  obtain ⟨⟨done, rfl⟩, rfl⟩ := Session.ends_overture ends
  constructor
  case hears =>
    show (store.inboxes ++ [some []])[store.inboxes.length]?.join.isSome = true
    rw [List.getElem?_concat_length]
    rfl
  case gate => exact Or.inl rfl
  case shown => rfl
  case keypad => rfl
  case check => exact Or.inl rfl
  case features => exact Or.inl rfl
  case sensorCheck => exact Or.inl rfl
  case switches => rfl
  case channels => exact fun channel => Or.inl rfl

end Runs

/-- At the end of some steps the switches of the panel have just been set by the settings of that
moment: the last step sets them, or the daemon has just come up. -/
def Session.JustSet {σ : Type} (host : Host σ) (first : Session σ) (steps : List Step) : Prop :=
  steps = [] ∨ ∃ before step, steps = before ++ [step] ∧
    let earlier := (first.after host before).core
    let core := (first.after host steps).core
    earlier.syncs step = true ∧
      core.switches = earlier.switches.map fun panel => (panel.sync earlier.disk core.table).2.1

/-- **From the start every copy is fresh after every step**, and current once all changes have
arrived. The switches of the panel are as they were set last. -/
theorem copies_follow_store {σ : Type} (host : Host σ) (device : σ) (disk : Disk) (store : Store)
    (presence : Presence) (switches : Option Switches) :
    let overture := (Session.overture disk store presence switches).transcript host device
    let first := Session.opening host device disk store presence switches
    let listener := store.inboxes.length
    (first.core.switches = switches.map fun panel => (panel.sync disk store.table).2.1) ∧
    ∀ steps, ∃ before after, steps = before ++ after ∧ first.JustSet host before ∧
      let exchanges := overture ++ exchangesOf (first.journal host steps)
      let synced := (first.after host before).core
      let core := (first.after host steps).core
      Coherent listener exchanges synced core ∧
        (core.store.unread listener = [] → Current exchanges synced core) := by
  intro overture first listener
  refine ⟨?_, fun steps => ?_⟩
  · exact congrArg Core.switches (Session.opening_core host device disk store presence switches)
  have fresh : ∃ before after, steps = before ++ after ∧ first.JustSet host before ∧
      Coherent listener (overture ++ exchangesOf (first.journal host steps))
        (first.after host before).core (first.after host steps).core := by
    -- The steps are taken off at the end: a step that sets the switches is the new place since which
    -- they stay, and any other leaves the old one.
    induction steps using List.reverseRec with
    | nil =>
      refine ⟨[], [], rfl, Or.inl rfl, ?_⟩
      rw [Session.journal, exchangesOf_nil, List.append_nil]
      exact coherent_begun (ends_run host _ device)
    | append_singleton steps step ih =>
      obtain ⟨before, after, split, just, coherent⟩ := ih
      have ends := ends_run host ((first.after host steps).core.step step)
        (first.after host steps).device
      have next := coherent_step coherent ends
      rw [Session.journal_concat, exchangesOf_append, exchangesOf_singleton, ← List.append_assoc]
      by_cases syncs : (first.after host steps).core.syncs step = true
      · refine ⟨steps ++ [step], [], (List.append_nil _).symm, ?_, ?_⟩
        · refine Or.inr ⟨steps, step, rfl, syncs, ?_⟩
          rw [Session.after_concat]
          exact syncs_sets ends syncs
        · rw [if_pos syncs] at next
          rw [Session.after_concat]
          exact next
      · refine ⟨before, after ++ [step], ?_, just, ?_⟩
        · rw [split, List.append_assoc]
        · rw [if_neg syncs] at next
          rw [Session.after_concat]
          exact next
  obtain ⟨before, after, split, just, coherent⟩ := fresh
  exact ⟨before, after, split, just, coherent, coherent.current⟩

/-- On a bench, the navigation keys are turned off: the gate is stale until the change arrives, and
current from then on. -/
theorem copies_current_on_bench :
    let first := Session.opening Bench.host {} {} {} {} none
    let deed : Step := .settings (.set Settings.keysDisabledName (.bool true))
    let stale := (first.after Bench.host [deed]).core
    let core := (first.after Bench.host [deed, .deliver 0 0]).core
    (stale.keysDisabled = false ∧ stale.store.unread 0 ≠ []) ∧ core.store.unread 0 = [] ∧
      core.keysDisabled = Settings.keysDisabled core.table ∧ core.keysDisabled = true := by
  intro first deed stale core
  have read : core.store.unread 0 = [] := by decide +kernel
  obtain ⟨_, _, _, _, _, current⟩ :=
    (copies_follow_store Bench.host {} {} {} {} none).2 [deed, .deliver 0 0]
  exact ⟨by decide +kernel, read, (current read).gate, by decide +kernel⟩

end TouchDispatch
