/-
**What keeps its time.**

Whoever looks at the modification time of a file sees what was written to it, and nothing else. A
time before 1970 is not seen at all:

* `Disk.Timely`: all files but those of one name are there as they were, with their times;
* `timely_makeParent`, `timely_write`: making directories and writing a file of the name come to no
  more;
* `modified_eq_some_iff`, `modified_eq_none_iff`: which time is told of a path, if any;
* `Timely.find`: **a file that is not of the name is found as it was, with its time.**
-/

import TouchDispatch.Proofs.Disk.Change

namespace TouchDispatch.Disk

/-- All files but those of one name are there as they were, with the times that they had. -/
def Timely (name : String) (disk changed : Disk) : Prop :=
  ∀ place content time, place.getLast? ≠ some name →
    disk.node? place = some (.file content time) → changed.node? place = some (.file content time)

variable {name : String} {disk changed : Disk} {path : Path} {place : Place}
  {content : List UInt8} {time : Stamp}

theorem Timely.refl (name : String) (disk : Disk) : Timely name disk disk :=
  fun _ _ _ _ => id

theorem Timely.trans {final : Disk} (first : Timely name disk changed)
    (second : Timely name changed final) : Timely name disk final :=
  fun place content time other file =>
    second place content time other (first place content time other file)

/-- **What is put into a directory changes the time of the directory**, and no other. -/
theorem timely_put {make : Stamp → Node} (found : disk.placeFor path none = .ok place)
    (free : place.getLast? ≠ some name → disk.kind place = .nothing) :
    Timely name disk (disk.put place make) := by
  intro other content time named file
  obtain ⟨inner, _, above⟩ := last_of_placeFor found
  have held : disk.kind other = .file content := kind_eq_file_iff.mpr ⟨time, file⟩
  have apart : other ≠ place := by
    rintro rfl
    rw [free named] at held
    cases held
  have below : other ≠ place.dropLast := by
    rintro rfl
    rw [above] at held
    cases held
  unfold put insert
  split
  · rw [node?_place inner, if_neg apart]
    exact file
  · rw [node?_place inner, if_neg apart, touchAbove, node?_stampPlace _ below]
    exact file

theorem timely_makeDirectory (made : disk.makeDirectory path = .ok changed) :
    Timely name disk changed := by
  obtain ⟨place, found, free, rfl⟩ := makeDirectory_eq_ok made
  exact timely_put found fun _ => free

theorem timely_makeParent (name : String) (disk : Disk) (path : Path) :
    Timely name disk (disk.makeParent path).2 :=
  makeParent_induction (Timely.refl name) (fun _ _ _ => Timely.trans)
    (fun _ _ _ => timely_makeDirectory) disk path

theorem timely_write (written : disk.write path content = .ok changed) :
    Timely path.last disk changed := by
  obtain ⟨_, place, found, _, rfl⟩ := write_eq_ok written
  exact timely_put found fun other => absurd (last_of_placeFor found).2.1 other

/-! ### What is found afterwards -/

/-- **The time that is told is that of what is found**, and a time before 1970 is not told. -/
theorem modified_eq_some_iff : disk.modified? path = some time ↔
    ∃ node, disk.find path = .ok node ∧ node.stamp = time ∧ time.isEarly = false := by
  unfold modified?
  cases disk.find path with
  | error cause => exact iff_of_false nofun fun ⟨_, missing, _⟩ => nomatch missing
  | ok node =>
    dsimp only
    constructor
    · intro told
      split at told
      · cases told
      · next late =>
        obtain rfl := Option.some.inj told
        exact ⟨node, rfl, rfl, Bool.of_not_eq_true late⟩
    · rintro ⟨_, same, rfl, late⟩
      obtain rfl := Except.ok.inj same
      rw [late, if_neg Bool.false_ne_true]

/-- **No time is told of what is missing, and of what has a time before 1970.** -/
theorem modified_eq_none_iff : disk.modified? path = none ↔
    ∀ node, disk.find path = .ok node → node.stamp.isEarly = true := by
  rw [Option.eq_none_iff_forall_ne_some]
  constructor
  · intro untold node found
    by_contra late
    exact untold _ (modified_eq_some_iff.mpr ⟨node, found, rfl, Bool.of_not_eq_true late⟩)
  · intro early time told
    obtain ⟨node, found, rfl, late⟩ := modified_eq_some_iff.mp told
    exact Bool.false_ne_true (late.symm.trans (early node found))

/-- A file that is read and has a time. -/
theorem find_of_read (read : disk.read path = .ok content)
    (modified : disk.modified? path = some time) : disk.find path = .ok (.file content time) := by
  obtain ⟨stamp, found⟩ := read_eq_ok_iff_find.mp read
  obtain ⟨node, same, rfl, _⟩ := modified_eq_some_iff.mp modified
  obtain rfl := Except.ok.inj (found.symm.trans same)
  exact found

/-- What a program has written has a time. -/
theorem Written.modified (written : disk.Written path content) :
    ∃ time, disk.modified? path = some time :=
  let ⟨serial, found⟩ := written
  ⟨.written serial, modified_eq_some_iff.mpr ⟨_, found, rfl, rfl⟩⟩

/-- **A file that is not of the name is found as it was, with its time.** -/
theorem Timely.find (timely : Timely name disk changed) (grown : Grown name disk changed)
    (other : path.last ≠ name) (found : disk.find path = .ok (.file content time)) :
    changed.find path = .ok (.file content time) := by
  obtain ⟨named, place, here, file⟩ := find_eq_file_iff.mp found
  refine find_eq_file_iff.mpr ⟨named, place, placeFor_into grown.directories here, ?_⟩
  refine timely place content time (fun same => other ?_) file
  exact Option.some.inj ((last_of_placeFor here).2.1.symm.trans same)

end TouchDispatch.Disk
