/-
**A file that is written over where it stands is all that changes.**

* `Disk.Overwritten`: two trees that differ in the content of one file at most;
* `overwritten_write`: writing to a path where there is something comes to no more;
* `Overwritten.walk`, `Overwritten.has`, `Overwritten.writes`: **all paths lead where they led, and
  what could be written before still can**;
* `Overwritten.read`: what is read at the path of another file is what was read before;
* `Disk.Apart`: two paths that are written in different names and lead to different places;
* `apart_of_plain`: so do any two paths without a way up that differ in their names.
-/

import TouchDispatch.Disk.Value
import TouchDispatch.Proofs.Disk.Change

namespace TouchDispatch.Disk

variable {disk changed : Disk} {path other : Path} {place here : Place} {content : List UInt8}

/-- Two trees that differ in the content of one file at most. -/
structure Overwritten (place : Place) (disk changed : Disk) : Prop where
  kinds : ∀ here, here ≠ place → changed.kind here = disk.kind here
  before : ∃ content, disk.kind place = .file content
  after : ∃ content, changed.kind place = .file content
  refusals : changed.refusals = disk.refusals

/-! ### What a walk looks at -/

/-- Where a part leads depends on the kinds of what there is. -/
theorem step_eq (disk : Disk) (place : Place) (part : String) :
    disk.step place part =
      match disk.kind place with
      | .nothing => .error .notFound
      | .file _ => .error .notDirectory
      | .directory =>
        if Path.isIdle part then .ok place
        else if part = ".." then .ok place.dropLast
        else if Path.isLong part then .error .nameTooLong
        else if disk.kind (place ++ [part]) = .nothing then .error .notFound
        else .ok (place ++ [part]) := by
  simp only [kind_eq_nothing_iff]
  unfold step kind
  rcases disk.node? place with _ | ⟨content, time⟩ | time <;> rfl

theorem has_iff : disk.has path = true ↔
    path.fault? = none ∧ ∃ place, disk.walk [] path.parts = .ok place ∧
      disk.kind place ≠ .nothing := by
  have found : disk.has path = true ↔ ∃ node, disk.find path = .ok node := by
    unfold has
    cases disk.find path with
    | ok node => exact iff_of_true rfl ⟨node, rfl⟩
    | error cause => exact iff_of_false Bool.false_ne_true nofun
  rw [found]
  simp only [find_eq_ok_iff, ne_eq, kind_eq_nothing_iff, ← Option.isSome_iff_ne_none,
    Option.isSome_iff_exists]
  constructor
  · rintro ⟨node, sane, place, walk, here⟩
    exact ⟨sane, place, walk, node, here⟩
  · rintro ⟨sane, place, walk, node, here⟩
    exact ⟨node, sane, place, walk, here⟩

theorem has_of_read (read : disk.read path = .ok content) : disk.has path = true := by
  obtain ⟨sane, place, walk, file⟩ := read_eq_ok_iff_walk.mp read
  refine has_iff.mpr ⟨sane, place, walk, ?_⟩
  rw [file]
  exact nofun

/-- A path can be written if the storage does not refuse it, and it leads to a file or to where
there is nothing yet. -/
theorem write_isOk_iff : (∃ changed, disk.write path content = .ok changed) ↔
    disk.refusal? .write path = none ∧ path.EndsInName ∧
      ∃ place, disk.placeFor path none = .ok place ∧ disk.kind place ≠ .directory := by
  constructor
  · rintro ⟨changed, written⟩
    obtain ⟨named, place, found, free, -⟩ := write_eq_ok written
    refine ⟨?_, named, place, found, free⟩
    unfold write at written
    split at written
    · cases written
    · assumption
  · rintro ⟨allowed, ⟨unslashed, undotted⟩, place, found, free⟩
    unfold write
    rw [allowed, unslashed, undotted]
    dsimp only
    rw [if_neg (by decide), found]
    dsimp only
    split
    · next time directory => exact absurd (kind_eq_directory_iff.mpr ⟨time, directory⟩) free
    · exact ⟨_, rfl⟩

/-! ### What stays -/

namespace Overwritten

variable (written : Overwritten place disk changed)
include written

theorem nothing_iff : changed.kind here = .nothing ↔ disk.kind here = .nothing := by
  by_cases same : here = place
  · obtain ⟨old, before⟩ := written.before
    obtain ⟨new, after⟩ := written.after
    rw [same, before, after]
    exact iff_of_false nofun nofun
  · rw [written.kinds here same]

theorem directory_iff : changed.kind here = .directory ↔ disk.kind here = .directory := by
  by_cases same : here = place
  · obtain ⟨old, before⟩ := written.before
    obtain ⟨new, after⟩ := written.after
    rw [same, before, after]
    exact iff_of_false nofun nofun
  · rw [written.kinds here same]

theorem step (part : String) : changed.step here part = disk.step here part := by
  rw [step_eq, step_eq]
  simp only [written.nothing_iff]
  by_cases same : here = place
  · obtain ⟨old, before⟩ := written.before
    obtain ⟨new, after⟩ := written.after
    rw [same, before, after]
  · rw [written.kinds here same]

/-- **Every walk leads where it led.** -/
theorem walk (parts : List String) : changed.walk here parts = disk.walk here parts := by
  induction parts generalizing here with
  | nil => rfl
  | cons part rest ih =>
    rw [Disk.walk, Disk.walk, written.step]
    simp only [ih]

theorem placeFor (path : Path) (unfit : Option Errno) :
    changed.placeFor path unfit = disk.placeFor path unfit := by
  unfold Disk.placeFor
  rw [written.walk]

theorem has (path : Path) : changed.has path = disk.has path := by
  rw [Bool.eq_iff_iff, has_iff, has_iff]
  simp only [written.walk, ne_eq, written.nothing_iff]

/-- What could be written before still can. -/
theorem writes (path : Path) {first second : List UInt8} :
    (∃ later, changed.write path first = .ok later) ↔
      ∃ later, disk.write path second = .ok later := by
  rw [write_isOk_iff, write_isOk_iff]
  simp only [refusal?, written.refusals, written.placeFor, ne_eq, written.directory_iff]

/-- Another file is read as before. -/
theorem read (apart : disk.placeFor path none ≠ .ok place) :
    changed.read path = .ok content ↔ disk.read path = .ok content := by
  rw [read_eq_ok_iff, read_eq_ok_iff, written.placeFor]
  refine and_congr_right fun _ => exists_congr fun here => and_congr_right fun found => ?_
  rw [written.kinds here]
  rintro rfl
  exact apart found

end Overwritten

/-! ### Writing where there is something -/

@[simp]
theorem refusals_place {node : Node} : (disk.place place node).refusals = disk.refusals := by
  unfold Disk.place
  split <;> rfl

@[simp]
theorem refusals_put (make : Stamp → Node) : (disk.put place make).refusals = disk.refusals := by
  unfold put insert
  split
  · exact refusals_place
  · exact refusals_place

/-- **Writing to a path where there is something alters the content of one file**, and leaves all
else as it was. -/
theorem overwritten_write (there : disk.has path = true)
    (written : disk.write path content = .ok changed) :
    ∃ place, disk.placeFor path none = .ok place ∧ Overwritten place disk changed := by
  obtain ⟨named, place, found, free, rfl⟩ := write_eq_ok written
  have inner := (last_of_placeFor found).1
  refine ⟨place, found, fun here apart => ?_, ?_, ⟨content, ?_⟩, refusals_put _⟩
  · rw [kind_put inner, if_neg apart]
  · -- What is found at the path stands where it would be made.
    obtain ⟨-, other, walk, present⟩ := has_iff.mp there
    obtain ⟨-, -, above, before, rfl⟩ := placeFor_eq_ok_iff.mp found
    obtain ⟨before, -⟩ := walk_dot_iff.mp before
    rw [named.split.parts, walk_append, before] at walk
    change disk.walk above [path.last] = .ok other at walk
    rw [walk_single, step_name named.split.name] at walk
    obtain ⟨-, -, rfl, -⟩ := walk
    cases kind : disk.kind (above ++ [path.last]) with
    | nothing => exact absurd kind present
    | directory => exact absurd kind free
    | file content => exact ⟨content, rfl⟩
  · rw [kind_put inner, if_pos rfl]
    rfl

/-! ### Paths to different files -/

/-- Two paths that are written in different names and lead to different places. -/
structure Apart (disk : Disk) (path other : Path) : Prop where
  names : path.names ≠ other.names
  places : ∀ place, disk.placeFor path none = .ok place → disk.placeFor other none ≠ .ok place

theorem Apart.symm (apart : Apart disk path other) : Apart disk other path :=
  ⟨apart.names.symm, fun place found same => apart.places place same found⟩

/-- To write over a file keeps paths apart. -/
theorem Apart.overwritten (apart : Apart disk path other)
    (written : Overwritten place disk changed) :
    Apart changed path other :=
  ⟨apart.names, by simpa only [written.placeFor] using apart.places⟩

/-- A walk without a way up leads to the names that it passes. -/
theorem walk_plain_names {parts : List String} (plain : ".." ∉ parts)
    (walk : disk.walk place parts = .ok here) :
    here = place ++ parts.filter fun part => !Path.isIdle part := by
  induction parts generalizing place with
  | nil =>
    cases walk
    exact (List.append_nil _).symm
  | cons part rest ih =>
    obtain ⟨notUp, plain⟩ := not_or.mp (List.mem_cons.not.mp plain)
    rw [Disk.walk] at walk
    split at walk
    · cases walk
    · next middle step =>
      rw [ih plain walk]
      by_cases idle : Path.isIdle part = true
      · rw [step_of_directory (directory_of_step step), if_pos idle] at step
        cases step
        simp [idle]
      · have name : Path.IsName part := ⟨Bool.of_not_eq_true idle, Ne.symm notUp⟩
        obtain ⟨-, -, rfl, -⟩ := (step_name name).mp step
        simp [idle]

/-- Without a way up, a path leads to the place of its names. -/
theorem names_of_placeFor (named : path.EndsInName) (plain : ".." ∉ path.parts)
    (found : disk.placeFor path none = .ok place) : place = path.names := by
  obtain ⟨-, -, above, walk, rfl⟩ := placeFor_eq_ok_iff.mp found
  rw [named.split.parts] at plain
  have front : above = [] ++ path.front.filter fun part => !Path.isIdle part :=
    walk_plain_names (fun up => plain (List.mem_append_left _ up)) (walk_dot_iff.mp walk).1
  rw [Path.names, named.split.parts, front]
  simp [named.split.name.1]

/-- **Paths without a way up are apart if they differ in their names.** -/
theorem apart_of_plain (named : path.EndsInName) (plain : ".." ∉ path.parts)
    (otherNamed : other.EndsInName) (otherPlain : ".." ∉ other.parts)
    (names : path.names ≠ other.names) (disk : Disk) : Apart disk path other := by
  refine ⟨names, fun place found same => names ?_⟩
  rw [← names_of_placeFor named plain found, names_of_placeFor otherNamed otherPlain same]

end TouchDispatch.Disk
