/-
**What a program may change in a tree.**

* `Disk.Grown`: directories were made, and files of one name may have been written; all other files
  are as they were;
* `grown_makeParent`, `grown_write`: making directories and writing a file come to no more;
* `Grown.read_iff`: **what a path without a way up is read as stays the same**, if it is not the
  path of a file of that name;
* `Written`, `written_of_write`: a file that a program has written is found with the number of the
  change for its time;
* `Sound.moved`: **a file that was moved is found at its new path, with its time.**
-/

import TouchDispatch.Proofs.Disk.Walk

namespace TouchDispatch.Disk

/-- A tree in which directories were made and files of one name may have been written. -/
structure Grown (name : String) (disk changed : Disk) : Prop where
  directories : ∀ place, disk.kind place = .directory → changed.kind place = .directory
  contents : ∀ place content, place.getLast? ≠ some name →
    (changed.kind place = .file content ↔ disk.kind place = .file content)
  sound : disk.Sound → changed.Sound

variable {name : String} {disk changed : Disk} {path : Path} {place : Place}

theorem Grown.refl (name : String) (disk : Disk) : Grown name disk disk :=
  ⟨fun _ => id, fun _ _ _ => Iff.rfl, id⟩

theorem Grown.trans {final : Disk} (first : Grown name disk changed)
    (second : Grown name changed final) : Grown name disk final :=
  ⟨fun place directory => second.directories place (first.directories place directory),
    fun place content other =>
      (second.contents place content other).trans (first.contents place content other),
    fun sound => second.sound (first.sound sound)⟩

theorem grown_put {make : Stamp → Node} (found : disk.placeFor path none = .ok place)
    (free : disk.kind place ≠ .directory)
    (contents : place.getLast? ≠ some name → ∀ content,
      ((make (.written disk.nextSerial)).kind = .file content ↔ disk.kind place = .file content)) :
    Grown name disk (disk.put place make) := by
  obtain ⟨inner, _, lies⟩ := last_of_placeFor found
  have alters : ∀ other, (disk.put place make).kind other =
      if other = place then (make (.written disk.nextSerial)).kind else disk.kind other :=
    fun _ => kind_put inner make
  refine ⟨fun other directory => ?_, fun other content named => ?_, fun sound => ?_⟩
  · have apart : other ≠ place := by
      rintro rfl
      exact free directory
    rw [alters, if_neg apart]
    exact directory
  · rw [alters]
    by_cases same : other = place
    · subst same
      rw [if_pos rfl]
      exact contents named content
    · rw [if_neg same]
  · exact sound.of_kind alters lies free

/-! ### Making directories -/

theorem makeDirectory_eq_ok (made : disk.makeDirectory path = .ok changed) :
    ∃ place, disk.placeFor path none = .ok place ∧ disk.kind place = .nothing ∧
      changed = disk.put place .directory := by
  unfold makeDirectory at made
  split at made
  · cases made
  · split at made
    · cases made
    · next place found =>
      have fit := unfit_of_placeFor found
      rw [fit] at found
      split at made
      · cases made
      · next free =>
        obtain rfl := Except.ok.inj made
        exact ⟨place, found, kind_eq_nothing_iff.mpr free, rfl⟩

theorem grown_makeDirectory (made : disk.makeDirectory path = .ok changed) :
    Grown name disk changed := by
  obtain ⟨place, found, free, rfl⟩ := makeDirectory_eq_ok made
  refine grown_put found (by rw [free]; exact nofun) fun _ content => ?_
  rw [free]
  exact iff_of_false nofun nofun

/-- **Making directories is making one after another**, whether it works to the end or not. -/
theorem makeDirectories_induction {relation : Disk → Disk → Prop}
    (refl : ∀ disk, relation disk disk)
    (trans : ∀ first second third, relation first second → relation second third →
      relation first third)
    (made : ∀ disk path changed, disk.makeDirectory path = .ok changed → relation disk changed)
    (disk : Disk) (path : Path) : relation disk (disk.makeDirectories path).2 := by
  fun_induction makeDirectories disk path with
  | case1 path changed makes => exact made disk path changed makes
  | case2 => exact refl disk
  | case3 path above lies _ cause changed failed makes ih =>
    rw [failed] at ih
    exact ih
  | case4 path above lies _ middle above_made changed here makes ih =>
    rw [above_made] at ih
    exact trans _ _ _ ih (made middle path changed here)
  | case5 path above lies _ middle above_made cause failed makes ih =>
    rw [above_made] at ih
    exact ih
  | case6 => exact refl disk

theorem makeParent_induction {relation : Disk → Disk → Prop} (refl : ∀ disk, relation disk disk)
    (trans : ∀ first second third, relation first second → relation second third →
      relation first third)
    (made : ∀ disk path changed, disk.makeDirectory path = .ok changed → relation disk changed)
    (disk : Disk) (path : Path) : relation disk (disk.makeParent path).2 := by
  unfold makeParent
  split
  · exact makeDirectories_induction refl trans made disk _
  · exact refl disk

theorem grown_makeParent (name : String) (disk : Disk) (path : Path) :
    Grown name disk (disk.makeParent path).2 :=
  makeParent_induction (.refl name) (fun _ _ _ => .trans) (fun _ _ _ => grown_makeDirectory)
    disk path

/-! ### Writing -/

/-- A file is written where its path ends in a name, and never in the place of a directory. -/
theorem write_eq_ok {content : List UInt8} (written : disk.write path content = .ok changed) :
    path.EndsInName ∧ ∃ place, disk.placeFor path none = .ok place ∧
      disk.kind place ≠ .directory ∧ changed = disk.put place (.file content) := by
  unfold write at written
  split at written
  · cases written
  · dsimp only at written
    split at written
    · cases written
    · next place found =>
      have fit := unfit_of_placeFor found
      rw [fit] at found
      have named : path.EndsInName := by
        by_cases odd : (path.isSlashed || path.isDotted) = true
        · rw [if_pos odd] at fit
          cases fit
        · exact Bool.or_eq_false_iff.mp (Bool.of_not_eq_true odd)
      split at written
      · cases written
      · next free =>
        obtain rfl := Except.ok.inj written
        refine ⟨named, place, found, fun directory => ?_, rfl⟩
        obtain ⟨time, here⟩ := kind_eq_directory_iff.mp directory
        exact free time here

theorem grown_write {content : List UInt8} (written : disk.write path content = .ok changed) :
    Grown path.last disk changed := by
  obtain ⟨_, place, found, free, rfl⟩ := write_eq_ok written
  exact grown_put found free fun other => absurd (last_of_placeFor found).2.1 other

/-- A program has written the content of a file: the file is found with the number of a change for
its time. -/
def Written (disk : Disk) (path : Path) (content : List UInt8) : Prop :=
  ∃ serial, disk.find path = .ok (.file content (.written serial))

theorem Written.read {content : List UInt8} (written : disk.Written path content) :
    disk.read path = .ok content :=
  let ⟨serial, found⟩ := written
  read_eq_ok_iff_find.mpr ⟨.written serial, found⟩

theorem written_of_write {content : List UInt8} (written : disk.write path content = .ok changed) :
    changed.Written path content := by
  have grown := grown_write written
  obtain ⟨named, place, found, _, rfl⟩ := write_eq_ok written
  refine ⟨disk.nextSerial, find_eq_file_iff.mpr ⟨named, place, ?_, ?_⟩⟩
  · exact placeFor_into grown.directories found
  · exact node?_put (last_of_placeFor found).1 (.file content)

theorem read_of_write {content : List UInt8} (written : disk.write path content = .ok changed) :
    changed.read path = .ok content :=
  (written_of_write written).read

/-! ### What is read afterwards -/

section Reading

variable {content : List UInt8}

/-- **What is read at a path is still read there**, unless it is a file of the name. -/
theorem Grown.read (grown : Grown name disk changed) (other : path.last ≠ name)
    (read : disk.read path = .ok content) : changed.read path = .ok content := by
  obtain ⟨named, place, found, file⟩ := read_eq_ok_iff.mp read
  refine read_eq_ok_iff.mpr ⟨named, place, placeFor_into grown.directories found, ?_⟩
  refine (grown.contents place content fun same => other ?_).mpr file
  exact Option.some.inj ((last_of_placeFor found).2.1.symm.trans same)

/-- **A path without a way up is read as before.** With a way up it may lead through a directory
that was not there before. -/
theorem Grown.read_iff (grown : Grown name disk changed) (sound : disk.Sound)
    (other : path.last ≠ name) (plain : ".." ∉ path.parts) :
    changed.read path = .ok content ↔ disk.read path = .ok content := by
  refine ⟨fun read => ?_, grown.read other⟩
  obtain ⟨named, place, found, file⟩ := read_eq_ok_iff.mp read
  obtain ⟨sane, short, above, walk, lies⟩ := placeFor_eq_ok_iff.mp found
  have here : disk.kind place = .file content := by
    refine (grown.contents place content fun same => other ?_).mp file
    exact Option.some.inj ((last_of_placeFor found).2.1.symm.trans same)
  refine read_eq_ok_iff.mpr ⟨named, place, placeFor_eq_ok_iff.mpr ⟨sane, short, above, ?_, lies⟩,
    here⟩
  have front : ".." ∉ path.front ++ ["."] := by
    intro up
    rcases List.mem_append.mp up with up | dot
    · refine plain ?_
      rw [named.split.parts]
      exact List.mem_append_left _ up
    · exact absurd (List.mem_singleton.mp dot) (by decide)
  refine (walk_plain front walk).2 fun before lead => ?_
  subst lies
  have below : before <+: above ++ [path.last] := lead.trans (List.prefix_append above _)
  refine sound.directory_above below ?_ (by rw [here]; exact nofun)
  rintro rfl
  exact absurd lead.length_le (by simp)

end Reading

/-! ### Moving a file -/

theorem rename_eq_ok {source target : Path} (moved : disk.rename source target = .ok changed) :
    ∃ origin place node, disk.locate source = .ok origin ∧ disk.node? origin = some node ∧
      target.EndsInName ∧ disk.placeFor target none = .ok place ∧ disk.kind place ≠ .directory ∧
      changed = ((disk.erase origin).touchAbove place).place place node := by
  unfold rename at moved
  split at moved
  · cases moved
  split at moved
  · cases moved
  next origin located =>
  split at moved
  · cases moved
  next place found =>
  have fit := unfit_of_placeFor found
  rw [fit] at found
  have named : target.EndsInName := by
    unfold unfitTarget? at fit
    split at fit
    · cases fit
    split at fit
    · cases fit
    next undotted unslashed =>
    exact ⟨Bool.of_not_eq_true unslashed, Bool.of_not_eq_true undotted⟩
  split at moved
  · cases moved
  · cases moved
  next node here free =>
  obtain rfl := Except.ok.inj moved
  refine ⟨origin, place, node, located, here, named, found, fun directory => ?_, rfl⟩
  obtain ⟨time, lies⟩ := kind_eq_directory_iff.mp directory
  exact free time lies

/-- In a sound tree nothing lies below a file, so all directories stay when it is removed. -/
theorem Sound.not_below (sound : disk.Sound) {content : List UInt8} {below : Place}
    (file : disk.kind place = .file content) (lies : place <+: below)
    (present : disk.kind below ≠ .nothing) : below = place := by
  by_contra apart
  have directory := sound.directory_above lies (Ne.symm apart) present
  rw [file] at directory
  cases directory

/-- What is moved comes to its new place, and leaves nothing at its old one nor below. -/
theorem kind_moved {origin other : Place} (inner : place ≠ []) (node : Node) :
    (((disk.erase origin).touchAbove place).place place node).kind other =
      if other = place then node.kind
      else if other ≠ [] ∧ origin <+: other then .nothing
      else disk.kind other := by
  rw [kind_place inner, kind_touchAbove, kind_erase]

/-- Moving a file within a sound tree leaves all directories where they are. -/
theorem Sound.directory_moved (sound : disk.Sound) {origin other : Place} {content : List UInt8}
    (file : disk.kind origin = .file content) (inner : place ≠ [])
    (free : disk.kind place ≠ .directory) (node : Node) (directory : disk.kind other = .directory) :
    (((disk.erase origin).touchAbove place).place place node).kind other = .directory := by
  have apart : other ≠ place := by
    rintro rfl
    exact free directory
  have kept : ¬(other ≠ [] ∧ origin <+: other) := by
    rintro ⟨_, below⟩
    have same := sound.not_below file below (by rw [directory]; exact nofun)
    rw [same, file] at directory
    cases directory
  rw [kind_moved inner, if_neg apart, if_neg kept]
  exact directory

/-- **A file that was moved is found at its new path with the time that it had, and the tree stays
sound.** -/
theorem Sound.moved (sound : disk.Sound) {source target : Path} {content : List UInt8}
    {time : Stamp} (file : disk.find source = .ok (.file content time))
    (moved : disk.rename source target = .ok changed) :
    changed.find target = .ok (.file content time) ∧ changed.Sound := by
  obtain ⟨origin, place, node, located, here, named, found, free, rfl⟩ := rename_eq_ok moved
  obtain rfl : node = .file content time := by
    obtain ⟨sane, other, walk, held⟩ := find_eq_ok_iff.mp file
    unfold locate at located
    rw [sane] at located
    dsimp only at located
    rw [walk] at located
    obtain rfl := Except.ok.inj located
    exact Option.some.inj (here.symm.trans held)
  have held : disk.kind origin = .file content := kind_eq_file_iff.mpr ⟨time, here⟩
  obtain ⟨inner, _, above⟩ := last_of_placeFor found
  have directories : ∀ other, disk.kind other = .directory →
      (((disk.erase origin).touchAbove place).place place (.file content time)).kind other =
        .directory :=
    fun _ => sound.directory_moved held inner free _
  constructor
  · refine find_eq_file_iff.mpr ⟨named, place, placeFor_into directories found, ?_⟩
    rw [node?_place inner, if_pos rfl]
  · intro other below present
    refine directories _ ?_
    rw [kind_moved inner] at present
    split at present
    · next same => exact same ▸ above
    · split at present
      · exact absurd rfl present
      · exact sound other below present

end TouchDispatch.Disk
