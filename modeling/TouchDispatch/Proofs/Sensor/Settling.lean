/-
**The screen goes off after two looks that agree, and the changes alternate.**

* `ScreenProbe.SaysOff`: a node holds a number that means that the screen is off;
* `ScreenTracker.after`, `ScreenTracker.changes`: the tracker after a series of looks, and the
  changes that the looks show;
* `after_eq`: the tracker as a function of how many looks at the end of the series said off;
* `isChain_changes`: every change is one;
* `Settles`: what a series of looks at a node comes to;
* `Heeds`: the daemon does what a report of the display asks of it;
* `screen_settles`: **every series of looks settles, and a daemon that hears of the display from
  nobody else heeds every change.**
-/

import Mathlib.Data.List.Chain
import TouchDispatch.Proofs.Daemon.Blocking
import TouchDispatch.Proofs.Disk.Numbers
import TouchDispatch.Sensor.Screen

namespace TouchDispatch

open Dialogue

/-! ### One look -/

namespace ScreenProbe

/-- The numbers that mean that the screen is off. -/
def MeansOff : ScreenProbe → Int → Prop
  | blanking, value => value ≠ 0
  | brightness, value => value ≤ 0
  | power, value => value ≠ 0

/-- The node at a path holds a number that means that the screen is off. -/
def SaysOff (probe : ScreenProbe) (path : Path) (tree : Disk) : Prop :=
  ∃ value, tree.Holds path value ∧ probe.MeansOff value

/-- What a look at the node at a path comes to. -/
def look (probe : ScreenProbe) (path : Path) (tree : Disk) : Bool :=
  probe.isOn (tree.readInt? path)

variable {probe : ScreenProbe} {path : Path} {tree : Disk}

theorem isOnAt_eq_false_iff {value : Int} : probe.isOnAt value = false ↔ probe.MeansOff value := by
  cases probe <;> simp [isOnAt, MeansOff]

/-- **Only a node that holds a number says that the screen is off.** -/
theorem look_eq_false_iff : probe.look path tree = false ↔ probe.SaysOff path tree := by
  simp only [SaysOff, ← Disk.readInt?_eq_some_iff, ← isOnAt_eq_false_iff]
  unfold look isOn
  cases tree.readInt? path with
  | none => exact iff_of_false nofun nofun
  | some value => simp

end ScreenProbe

/-! ### A series of looks -/

namespace ScreenTracker

/-- The tracker after a series of looks. -/
def after (tracker : ScreenTracker) (looks : List Bool) : ScreenTracker :=
  looks.foldl (fun tracker isOn => (tracker.update isOn).2) tracker

/-- The changes that a series of looks shows. -/
def changes (tracker : ScreenTracker) : List Bool → List Bool
  | [] => []
  | isOn :: rest => (tracker.update isOn).1.toList ++ (tracker.update isOn).2.changes rest

/-- How many looks at the end of a series said off. -/
def offRun (looks : List Bool) : Nat :=
  (looks.reverse.takeWhile (!·)).length

variable {tracker : ScreenTracker} {looks : List Bool} {isOn : Bool}

/-- The change that is told first is the first of all changes. -/
theorem firstChange?_eq (tracker : ScreenTracker) (looks : List Bool) :
    tracker.firstChange? looks = (tracker.changes looks).head? := by
  induction looks generalizing tracker with
  | nil => rfl
  | cons isOn rest ih =>
    rw [firstChange?, changes]
    rcases tracker.update isOn with ⟨_ | on, next⟩
    · exact ih next
    · rfl

theorem update_eq (tracker : ScreenTracker) (isOn : Bool) :
    let streak := if isOn then 0 else min 255 (tracker.offStreak + 1)
    let on := isOn || decide (streak < 2)
    tracker.update isOn = (if on = tracker.on then none else some on, ⟨on, streak⟩) := by
  intro streak on
  unfold update
  change (if on = tracker.on then (none, ScreenTracker.mk tracker.on streak)
    else (some on, ScreenTracker.mk on streak)) = _
  split
  · next same => rw [← same]
  · rfl

/-- **A look tells of the state that it leaves behind, if that is a new one.** -/
theorem update_fst (tracker : ScreenTracker) (isOn : Bool) :
    (tracker.update isOn).1 = if (tracker.update isOn).2.on = tracker.on then none
      else some (tracker.update isOn).2.on := by
  rw [update_eq]

theorem after_concat (tracker : ScreenTracker) (looks : List Bool) (isOn : Bool) :
    tracker.after (looks ++ [isOn]) = ((tracker.after looks).update isOn).2 :=
  List.foldl_append

theorem changes_concat (tracker : ScreenTracker) (looks : List Bool) (isOn : Bool) :
    tracker.changes (looks ++ [isOn]) =
      tracker.changes looks ++ ((tracker.after looks).update isOn).1.toList := by
  induction looks generalizing tracker with
  | nil => exact List.append_nil _
  | cons first rest ih =>
    rw [List.cons_append, changes, changes, ih, List.append_assoc]
    rfl

theorem offRun_concat (looks : List Bool) (isOn : Bool) :
    offRun (looks ++ [isOn]) = if isOn then 0 else offRun looks + 1 := by
  unfold offRun
  rw [List.reverse_concat, List.takeWhile_cons]
  cases isOn with
  | true => rfl
  | false => rfl

/-- **The screen is on unless two looks in a row have said off since it was seen on last**, and the
streak stays at its greatest number once it is there. -/
theorem after_eq (looks : List Bool) :
    after {} looks = ⟨decide (offRun looks < 2), min 255 (offRun looks)⟩ := by
  induction looks using List.reverseRec with
  | nil => rfl
  | append_singleton looks isOn ih =>
    rw [after_concat, ih, update_eq, offRun_concat]
    cases isOn with
    | true => rfl
    | false =>
      simp only [Bool.false_eq_true, if_false, Bool.false_or, mk.injEq, decide_eq_decide]
      omega

theorem two_le_offRun_iff : 2 ≤ offRun looks ↔ ∃ before, looks = before ++ [false, false] := by
  constructor
  · intro long
    rcases List.eq_nil_or_concat looks with rfl | ⟨front, last, rfl⟩
    · cases long
    rw [List.concat_eq_append, offRun_concat] at long
    cases last with
    | true => cases long
    | false =>
      rcases List.eq_nil_or_concat front with rfl | ⟨before, last, rfl⟩
      · exact absurd long (by decide)
      rw [List.concat_eq_append, offRun_concat] at long
      cases last with
      | true => exact absurd long (by simp)
      | false => exact ⟨before, by simp⟩
  · rintro ⟨before, rfl⟩
    rw [List.append_cons, offRun_concat, offRun_concat]
    simp

/-- **Every change is one**: it differs from the one before it, and the first from the state at
the beginning. -/
theorem isChain_changes (tracker : ScreenTracker) (looks : List Bool) :
    (tracker.on :: tracker.changes looks).IsChain (· ≠ ·) := by
  induction looks generalizing tracker with
  | nil => exact .singleton _
  | cons isOn rest ih =>
    have later := ih (tracker.update isOn).2
    rw [changes, update_fst]
    by_cases same : (tracker.update isOn).2.on = tracker.on
    · rw [if_pos same]
      rwa [same] at later
    · rw [if_neg same]
      exact List.isChain_cons_cons.mpr ⟨Ne.symm same, later⟩

end ScreenTracker

/-! ### Looks at a node -/

namespace ScreenProbe

/-- What is remembered after looks at the node at a path, as the trees were one after another. -/
def tracker (probe : ScreenProbe) (path : Path) (trees : List Disk) : ScreenTracker :=
  ScreenTracker.after {} (trees.map (probe.look path))

/-- The changes that these looks show. -/
def changes (probe : ScreenProbe) (path : Path) (trees : List Disk) : List Bool :=
  ScreenTracker.changes {} (trees.map (probe.look path))

/-- What a series of looks at the node at a path comes to. -/
structure Settles (probe : ScreenProbe) (path : Path) (trees : List Disk) : Prop where
  /-- **The screen is off exactly if the last two looks found a number that means so.** -/
  off_iff : (probe.tracker path trees).on = false ↔
    ∃ before first second, trees = before ++ [first, second] ∧
      probe.SaysOff path first ∧ probe.SaysOff path second
  /-- However long the screen has been off, the streak does not start again. -/
  streak : (probe.tracker path trees).offStreak =
    min 255 (ScreenTracker.offRun (trees.map (probe.look path)))
  /-- A change is told by the look with which the state changes, and by no other one. -/
  told : ∀ tree, probe.changes path (trees ++ [tree]) = probe.changes path trees ++
    if (probe.tracker path (trees ++ [tree])).on = (probe.tracker path trees).on then []
    else [(probe.tracker path (trees ++ [tree])).on]
  /-- The screen is on after a look at a node that cannot be read or holds no number. -/
  lit : ∀ tree, (∀ value, ¬ tree.Holds path value) →
    (probe.tracker path (trees ++ [tree])).on = true
  /-- **The changes alternate**, and the first of them is to off. -/
  alternate : (true :: probe.changes path trees).IsChain (· ≠ ·)
  /-- The watch tells of the first of them first. -/
  first : ScreenTracker.firstChange? {} (trees.map (probe.look path)) =
    (probe.changes path trees).head?

theorem off_iff (probe : ScreenProbe) (path : Path) (trees : List Disk) :
    (probe.tracker path trees).on = false ↔
      ∃ before first second, trees = before ++ [first, second] ∧
        probe.SaysOff path first ∧ probe.SaysOff path second := by
  unfold tracker
  rw [ScreenTracker.after_eq, decide_eq_false_iff_not, Nat.not_lt, ScreenTracker.two_le_offRun_iff]
  simp only [← look_eq_false_iff]
  constructor
  · rintro ⟨before, split⟩
    obtain ⟨trees, last, rfl, _, split⟩ := List.map_eq_append_iff.mp split
    obtain ⟨first, rest, rfl, off, split⟩ := List.map_eq_cons_iff.mp split
    obtain ⟨second, rest, rfl, offAgain, split⟩ := List.map_eq_cons_iff.mp split
    obtain rfl := List.map_eq_nil_iff.mp split
    exact ⟨trees, first, second, rfl, off, offAgain⟩
  · rintro ⟨before, first, second, rfl, off, offAgain⟩
    refine ⟨before.map (probe.look path), ?_⟩
    rw [List.map_append, List.map_cons, List.map_singleton, off, offAgain]

theorem settles (probe : ScreenProbe) (path : Path) (trees : List Disk) :
    Settles probe path trees := by
  constructor
  case off_iff => exact off_iff probe path trees
  case streak =>
    unfold tracker
    rw [ScreenTracker.after_eq]
  case told =>
    intro tree
    unfold changes tracker
    rw [List.map_append, List.map_singleton, ScreenTracker.changes_concat,
      ScreenTracker.after_concat, ScreenTracker.update_fst]
    split
    · rfl
    · rfl
  case lit =>
    intro tree unread
    refine Bool.of_not_eq_false fun off => ?_
    obtain ⟨before, first, second, split, _, value, holds, _⟩ := (off_iff ..).mp off
    have ends : trees ++ [tree] = (before ++ [first]) ++ [second] := by simpa using split
    obtain ⟨_, same⟩ := List.append_inj' ends rfl
    obtain rfl := List.singleton_inj.mp same
    exact unread value holds
  case alternate => exact ScreenTracker.isChain_changes {} _
  case first => exact ScreenTracker.firstChange?_eq {} _

end ScreenProbe

/-! ### What the daemon hears -/

section Hearing

variable {σ : Type} (host : Host σ)

theorem lastReport_journal {α : Type} (kind : Step → Option α) (session : Session σ)
    (steps : List Step) :
    lastReport kind (session.journal host steps) = (steps.filterMap kind).getLast? := by
  unfold lastReport
  congr 1
  induction steps generalizing session with
  | nil => rfl
  | cons step rest ih =>
    rw [Session.journal, List.filterMap_cons, List.filterMap_cons, ih]

/-- A report of the display is heeded: it tells the daemon something new, the daemon takes it over
and tells both sensors what they are to report from now on. -/
structure Heeds (session : Session σ) (on : Bool) : Prop where
  new : session.core.screenOn = !on
  taken : (session.next host (.report (.display on))).core.screenOn = on
  told : let exchanges :=
      (session.core.step (.report (.display on))).transcript host session.device
    let listening := (session.next host (.report (.display on))).core.sensors.listening
    asked Request.proximity? exchanges = [listening.proximity] ∧
      asked Request.tilt? exchanges = [listening.tilt]

theorem heeds_of_new {session : Session σ} {on : Bool} (new : session.core.screenOn = !on) :
    Heeds host session on := by
  have ends := ends_run host (session.core.step (.report (.display on))) session.device
  obtain ⟨_, handled, last⟩ := ends_map_iff.mp ends
  obtain ⟨changed, reported, rfl⟩ := ends_map_iff.mp handled
  have next : (session.next host (.report (.display on))).core = changed := last
  cases on with
  | true =>
    obtain ⟨first, second, rfl, exchanges⟩ := Core.ends_displayOn new reported
    refine ⟨new, congrArg Core.screenOn next, ?_⟩
    rw [next, exchanges]
    exact ⟨rfl, rfl⟩
  | false =>
    obtain ⟨now, first, second, rfl, exchanges⟩ := Core.ends_displayOff new reported
    refine ⟨new, congrArg Core.screenOn next, ?_⟩
    rw [next, exchanges]
    exact ⟨rfl, rfl⟩

variable (device : σ) (disk : Disk) (store : Settings.Store) (presence : Presence)
  (switches : Option Switches)

/-- **What is reported of the display is always new if the reports are changes, one after
another.** -/
theorem heeds_of_isChain {before rest : List Step} {on : Bool} {reports : List Bool}
    (alternate : (true :: reports).IsChain (· ≠ ·))
    (heard : (before ++ .report (.display on) :: rest).filterMap Step.display? <+: reports) :
    Heeds host ((Session.opening host device disk store presence switches).after host before)
      on := by
  have tracked := tracked_after host device disk store presence switches before
  have split : before.filterMap Step.display? ++ on :: rest.filterMap Step.display? <+:
      reports := by
    simpa [Step.display?] using heard
  obtain ⟨more, rfl⟩ := split
  -- Just before the report the last one was another, or there was none and the screen was on.
  rw [List.append_assoc, ← List.cons_append, List.isChain_append] at alternate
  have apart := alternate.2.2 _ (List.getLast?_cons ..) on rfl
  refine heeds_of_new host ?_
  rw [tracked.display, lastDisplay, lastReport_journal]
  exact Bool.eq_not_of_ne apart

end Hearing

/-- **The screen goes off after two looks that agree, on after one, and the changes alternate.** For
every kind of node and every series of looks at it, the screen is off exactly if the last two looks
found a number that means so; so no node that cannot be read or holds no number turns it off. A
daemon that hears of the display from nobody else heeds every change that it hears of, whatever else
happens to it. -/
theorem screen_settles {σ : Type} (host : Host σ) (device : σ) (disk : Disk)
    (store : Settings.Store) (presence : Presence) (switches : Option Switches)
    (probe : ScreenProbe) (path : Path) (trees : List Disk) :
    probe.Settles path trees ∧
      ∀ before on rest,
        (before ++ .report (.display on) :: rest).filterMap Step.display? <+:
          probe.changes path trees →
        Heeds host ((Session.opening host device disk store presence switches).after host before)
          on := by
  have settles := probe.settles path trees
  exact ⟨settles, fun before on rest =>
    heeds_of_isChain host device disk store presence switches settles.alternate⟩

/-- A node with a content. -/
def ScreenProbe.nodeWith (content : String) : Disk :=
  { nodes := [(["node"], .file (Text.Utf8.octets content) (.given 0))] }

/-- A backlight of zero and one below it turn the screen off, a garbled one turns it on, and a
single zero does nothing. A tilt between the two changes does not matter. -/
theorem screen_settles_on_bench :
    let trees := ["0\n", " -3", "x", "0", "9"].map ScreenProbe.nodeWith
    let steps : List Step := [.report (.display false), .report (.tilt true)]
    let opening := Session.opening Bench.host {} {} {} { tilt := true } none
    ScreenProbe.brightness.changes ⟨["node"]⟩ trees = [false, true] ∧
      Heeds Bench.host opening false ∧ Heeds Bench.host (opening.after Bench.host steps) true := by
  intro trees steps opening
  have changes : ScreenProbe.brightness.changes ⟨["node"]⟩ trees = [false, true] := by
    decide +kernel
  have heeds := (screen_settles Bench.host {} {} {} { tilt := true } none .brightness ⟨["node"]⟩
    trees).2
  rw [changes] at heeds
  exact ⟨changes, heeds [] false [] (by decide), heeds steps true [] (by decide)⟩

end TouchDispatch
