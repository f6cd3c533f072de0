/-
**Where a path leads.**

* `Path.EndsInName`: a path that a file can have, with neither a slash nor dots at its end;
* `walk_dot_iff`, `walk_into`: a walk into a directory passes only through directories, so it leads
  to the same place in every tree that has these;
* `walk_plain`: a walk without a way up passes only through the places above its end;
* `find_eq_file_iff`, `read_eq_ok_iff`: **a file is found, and read, at the place below the
  directory that its path speaks of.**
-/

import TouchDispatch.Proofs.Disk.Tree

namespace TouchDispatch

namespace Path

variable {path : Path}

/-- A path that a file can have: neither a slash nor dots are at its end. -/
def EndsInName (path : Path) : Prop :=
  path.isSlashed = false ∧ path.isDotted = false

/-- A part of a path that is a name of its own. -/
def IsName (part : String) : Prop :=
  isIdle part = false ∧ part ≠ ".."

theorem isIdle_dot : isIdle "." = true :=
  rfl

theorem trimEnd_concat (drop : String → Bool) {part : String} (kept : drop part = false)
    (parts : List String) : trimEnd drop (parts ++ [part]) = parts ++ [part] := by
  unfold trimEnd
  rw [List.reverse_concat, List.dropWhile_cons, kept, if_neg Bool.false_ne_true,
    List.reverse_cons, List.reverse_reverse]

/-- What the parts of a path that ends in a name are called. -/
structure Split (path : Path) (front : List String) (name : String) : Prop where
  parts : path.parts = front ++ [name]
  name : IsName name

namespace Split

variable {front : List String} {name : String}

theorem bare (split : Split path front name) : path.bare = front ++ [name] := by
  have kept : (name == "") = false := (Bool.or_eq_false_iff.mp split.name.1).1
  unfold Path.bare
  rw [split.parts]
  exact trimEnd_concat (· == "") kept front

theorem last (split : Split path front name) : path.last = name := by
  unfold Path.last
  rw [split.bare, List.getLast?_concat]
  rfl

theorem front_eq (split : Split path front name) : path.front = front := by
  unfold Path.front
  rw [split.bare, List.dropLast_concat]

theorem endsInName (split : Split path front name) : path.EndsInName := by
  obtain ⟨idle, up⟩ := split.name
  obtain ⟨empty, dot⟩ := Bool.or_eq_false_iff.mp idle
  refine ⟨?_, ?_⟩
  · unfold isSlashed
    rw [split.parts, List.getLast?_concat]
    exact beq_eq_false_iff_ne.mpr fun same =>
      beq_eq_false_iff_ne.mp empty (Option.some.inj same)
  · unfold isDotted
    rw [split.last]
    exact Bool.or_eq_false_iff.mpr ⟨dot, beq_eq_false_iff_ne.mpr up⟩

end Split

theorem EndsInName.split (named : path.EndsInName) : Split path path.front path.last := by
  obtain ⟨unslashed, undotted⟩ := named
  unfold isSlashed at unslashed
  unfold isDotted at undotted
  rcases List.eq_nil_or_concat path.parts with none | ⟨front, name, parts⟩
  · unfold Path.last bare at undotted
    rw [none] at undotted
    cases undotted
  · have empty : (name == "") = false := by
      rw [parts, List.concat_eq_append, List.getLast?_concat] at unslashed
      exact beq_eq_false_iff_ne.mpr fun same =>
        beq_eq_false_iff_ne.mp unslashed (congrArg some same)
    have bare : path.bare = front ++ [name] := by
      unfold Path.bare
      rw [parts, List.concat_eq_append]
      exact trimEnd_concat (· == "") empty front
    have last : path.last = name := by
      unfold Path.last
      rw [bare, List.getLast?_concat]
      rfl
    have undotted : isDots name = false := last ▸ undotted
    obtain ⟨dot, up⟩ := Bool.or_eq_false_iff.mp undotted
    have split : Split path front name := by
      refine ⟨parts.trans List.concat_eq_append, ?_, beq_eq_false_iff_ne.mp up⟩
      exact Bool.or_eq_false_iff.mpr ⟨empty, dot⟩
    rw [split.front_eq, split.last]
    exact split

end Path

namespace Disk

variable {disk changed : Disk} {place next above : Place} {part : String} {parts : List String}

/-! ### Steps -/

theorem step_of_directory (directory : disk.kind place = .directory) (part : String) :
    disk.step place part =
      if Path.isIdle part then .ok place
      else if part = ".." then .ok place.dropLast
      else if Path.isLong part then .error .nameTooLong
      else if disk.kind (place ++ [part]) = .nothing then .error .notFound
      else .ok (place ++ [part]) := by
  obtain ⟨time, here⟩ := kind_eq_directory_iff.mp directory
  unfold step
  rw [here]
  simp only [kind_eq_nothing_iff]

/-- Only directories are passed through. -/
theorem directory_of_step (step : disk.step place part = .ok next) :
    disk.kind place = .directory := by
  unfold Disk.step at step
  split at step
  · cases step
  · cases step
  · next time here => exact kind_eq_directory_iff.mpr ⟨time, here⟩

/-- A part that is a name leads to what lies below. -/
theorem step_name (name : Path.IsName part) :
    disk.step place part = .ok next ↔
      disk.kind place = .directory ∧ Path.isLong part = false ∧ next = place ++ [part] ∧
        disk.kind next ≠ .nothing := by
  constructor
  · intro step
    have directory := directory_of_step step
    rw [step_of_directory directory, name.1, if_neg Bool.false_ne_true, if_neg name.2] at step
    split at step
    · cases step
    · next short =>
      split at step
      · cases step
      · next present =>
        obtain rfl := Except.ok.inj step
        exact ⟨directory, Bool.of_not_eq_true short, rfl, present⟩
  · rintro ⟨directory, short, rfl, present⟩
    rw [step_of_directory directory, name.1, if_neg Bool.false_ne_true, if_neg name.2, short,
      if_neg Bool.false_ne_true, if_neg present]

/-- The places on the way to a place are directories. -/
def Way (disk : Disk) (place : Place) : Prop :=
  ∀ above, above <+: place → above ≠ place → disk.kind above = .directory

theorem way_root (disk : Disk) : Way disk [] :=
  fun _ before apart => absurd (List.prefix_nil.mp before) apart

theorem Way.step (way : Way disk place) (step : disk.step place part = .ok next) :
    Way disk next := by
  have directory := directory_of_step step
  have here : ∀ above, above <+: place → disk.kind above = .directory := by
    intro above before
    by_cases same : above = place
    · exact same ▸ directory
    · exact way above before same
  rw [step_of_directory directory] at step
  split at step
  · obtain rfl := Except.ok.inj step
    exact way
  split at step
  · obtain rfl := Except.ok.inj step
    exact fun above before _ => here above (before.trans (List.dropLast_prefix place))
  split at step
  · cases step
  split at step
  · cases step
  · obtain rfl := Except.ok.inj step
    intro above before apart
    exact here above ((List.prefix_concat_iff.mp before).resolve_left apart)

/-! ### Walks -/

theorem walk_append (disk : Disk) (place : Place) (first second : List String) :
    disk.walk place (first ++ second) =
      match disk.walk place first with
      | .error errno => .error errno
      | .ok middle => disk.walk middle second := by
  induction first generalizing place with
  | nil => rfl
  | cons part rest ih =>
    rw [List.cons_append, walk, walk]
    cases disk.step place part with
    | error errno => rfl
    | ok next => exact ih next

theorem walk_append_eq_ok_iff {first second : List String} :
    disk.walk place (first ++ second) = .ok next ↔
      ∃ middle, disk.walk place first = .ok middle ∧ disk.walk middle second = .ok next := by
  rw [walk_append]
  cases disk.walk place first with
  | error errno => exact iff_of_false nofun fun ⟨_, failed, _⟩ => nomatch failed
  | ok middle =>
    exact ⟨fun walk => ⟨middle, rfl, walk⟩, fun ⟨_, same, walk⟩ => Except.ok.inj same ▸ walk⟩

theorem walk_single : disk.walk place [part] = disk.step place part := by
  rw [walk]
  cases disk.step place part <;> rfl

theorem Way.walk (way : Way disk place) (walk : disk.walk place parts = .ok next) :
    Way disk next := by
  induction parts generalizing place with
  | nil => exact Except.ok.inj walk ▸ way
  | cons part rest ih =>
    unfold Disk.walk at walk
    split at walk
    · cases walk
    · next step => exact ih (way.step step) walk

/-- A dot at the end asks for a directory. -/
theorem walk_dot_iff : disk.walk place (parts ++ ["."]) = .ok next ↔
    disk.walk place parts = .ok next ∧ disk.kind next = .directory := by
  rw [walk_append_eq_ok_iff]
  constructor
  · rintro ⟨middle, walk, dot⟩
    rw [walk_single] at dot
    have directory := directory_of_step dot
    rw [step_of_directory directory, if_pos Path.isIdle_dot] at dot
    obtain rfl := Except.ok.inj dot
    exact ⟨walk, directory⟩
  · rintro ⟨walk, directory⟩
    refine ⟨next, walk, ?_⟩
    rw [walk_single, step_of_directory directory, if_pos Path.isIdle_dot]

/-- A walk into a directory begins in one. -/
theorem directory_of_walk_dot (walk : disk.walk place (parts ++ ["."]) = .ok next) :
    disk.kind place = .directory := by
  cases parts with
  | nil =>
    obtain ⟨here, directory⟩ := walk_dot_iff.mp walk
    exact Except.ok.inj here ▸ directory
  | cons part rest =>
    rw [List.cons_append, Disk.walk] at walk
    split at walk
    · cases walk
    · next step => exact directory_of_step step

/-- **A walk into a directory leads to the same place in every tree with the same directories, or
with more.** -/
theorem walk_into (kept : ∀ here, disk.kind here = .directory → changed.kind here = .directory)
    (walk : disk.walk place (parts ++ ["."]) = .ok next) :
    changed.walk place (parts ++ ["."]) = .ok next := by
  induction parts generalizing place with
  | nil =>
    obtain ⟨here, directory⟩ := walk_dot_iff.mp walk
    exact walk_dot_iff.mpr ⟨here, kept _ directory⟩
  | cons part rest ih =>
    rw [List.cons_append, Disk.walk] at walk ⊢
    split at walk
    · cases walk
    · next middle step =>
      have directory := directory_of_step step
      have inner := directory_of_walk_dot walk
      have same : changed.step place part = .ok middle := by
        rw [step_of_directory directory] at step
        rw [step_of_directory (kept _ directory)]
        split at step
        · next idle => rw [if_pos idle, step]
        · next busy =>
          rw [if_neg busy]
          split at step
          · next up => rw [if_pos up, step]
          · next down =>
            rw [if_neg down]
            split at step
            · cases step
            · next short =>
              rw [if_neg short]
              split at step
              · cases step
              · obtain rfl := Except.ok.inj step
                rw [if_neg (by rw [kept _ inner]; exact nofun)]
      rw [same]
      exact ih walk

theorem walk_congr (same : changed.nodes = disk.nodes) :
    changed.walk place parts = disk.walk place parts := by
  have nodes : ∀ here, changed.node? here = disk.node? here := fun here => by
    unfold node?
    rw [same]
  induction parts generalizing place with
  | nil => rfl
  | cons part rest ih =>
    have step : changed.step place part = disk.step place part := by
      simp only [Disk.step, nodes]
    rw [walk, walk, step]
    simp only [ih]

/-- **A walk without a way up passes through the places above its end**, so it leads there in every
tree in which these are directories. -/
theorem walk_plain (plain : ".." ∉ parts) (walk : changed.walk place parts = .ok next) :
    place <+: next ∧ ((∀ above, above <+: next → disk.kind above = .directory) →
      disk.walk place parts = .ok next) := by
  induction parts generalizing place with
  | nil =>
    obtain rfl := Except.ok.inj walk
    exact ⟨List.prefix_rfl, fun _ => rfl⟩
  | cons part rest ih =>
    obtain ⟨notUp, plain⟩ := not_or.mp (List.mem_cons.not.mp plain)
    rw [Disk.walk] at walk
    split at walk
    · cases walk
    · next middle step =>
      obtain ⟨before, leads⟩ := ih plain walk
      have there := directory_of_step step
      by_cases idle : Path.isIdle part = true
      · rw [step_of_directory there, if_pos idle] at step
        obtain rfl := Except.ok.inj step
        refine ⟨before, fun directories => ?_⟩
        rw [Disk.walk, step_of_directory (directories _ before), if_pos idle]
        exact leads directories
      · have name : Path.IsName part := ⟨Bool.of_not_eq_true idle, Ne.symm notUp⟩
        obtain ⟨_, short, rfl, _⟩ := (step_name name).mp step
        have first : place <+: next := (List.prefix_append place [part]).trans before
        refine ⟨first, fun directories => ?_⟩
        have present : disk.kind (place ++ [part]) ≠ .nothing := by
          rw [directories _ before]
          exact nofun
        rw [Disk.walk, (step_name name).mpr ⟨directories _ first, short, rfl, present⟩]
        exact leads directories

/-! ### Places -/

section Paths

variable {path : Path}

theorem placeFor_eq_ok_iff : disk.placeFor path none = .ok place ↔
    path.fault? = none ∧ Path.isLong path.last = false ∧
      ∃ above, disk.walk [] (path.front ++ ["."]) = .ok above ∧ place = above ++ [path.last] := by
  unfold placeFor
  split
  · next fault => exact iff_of_false nofun fun ⟨sane, _⟩ => nomatch fault.symm.trans sane
  · next sane =>
    split
    · next failed =>
      exact iff_of_false nofun fun ⟨_, _, above, walk, _⟩ => nomatch failed.symm.trans walk
    · next above walk =>
      dsimp only
      split
      · next long =>
        exact iff_of_false nofun fun ⟨_, short, _⟩ => nomatch long.symm.trans short
      · next short =>
        constructor
        · intro same
          obtain rfl := Except.ok.inj same
          exact ⟨sane, Bool.of_not_eq_true short, above, walk, rfl⟩
        · rintro ⟨_, _, other, otherWalk, rfl⟩
          rw [Except.ok.inj (walk.symm.trans otherWalk)]

/-- Where the operation does not take the last part as it is, nothing is made. -/
theorem unfit_of_placeFor {unfit : Option Errno} (found : disk.placeFor path unfit = .ok place) :
    unfit = none := by
  unfold placeFor at found
  split at found
  · cases found
  · split at found
    · cases found
    · cases unfit with
      | none => rfl
      | some errno => cases found

theorem placeFor_into (kept : ∀ here, disk.kind here = .directory → changed.kind here = .directory)
    (found : disk.placeFor path none = .ok place) : changed.placeFor path none = .ok place := by
  obtain ⟨sane, short, above, walk, rfl⟩ := placeFor_eq_ok_iff.mp found
  exact placeFor_eq_ok_iff.mpr ⟨sane, short, above, walk_into kept walk, rfl⟩

theorem last_of_placeFor (found : disk.placeFor path none = .ok place) :
    place ≠ [] ∧ place.getLast? = some path.last ∧ disk.kind place.dropLast = .directory := by
  obtain ⟨_, _, above, walk, rfl⟩ := placeFor_eq_ok_iff.mp found
  refine ⟨List.append_ne_nil_of_right_ne_nil _ (List.cons_ne_nil _ _), List.getLast?_concat, ?_⟩
  rw [List.dropLast_concat]
  exact (walk_dot_iff.mp walk).2

theorem find_eq_ok_iff {node : Node} : disk.find path = .ok node ↔
    path.fault? = none ∧ ∃ place, disk.walk [] path.parts = .ok place ∧
      disk.node? place = some node := by
  unfold find locate
  cases path.fault? with
  | some cause => exact iff_of_false nofun fun ⟨sane, _⟩ => nomatch sane
  | none =>
    cases walk : disk.walk [] path.parts with
    | error errno => exact iff_of_false nofun fun ⟨_, _, failed, _⟩ => nomatch failed
    | ok place =>
      dsimp only [Except.mapError]
      constructor
      · intro found
        refine ⟨rfl, place, rfl, ?_⟩
        cases here : disk.node? place with
        | none =>
          rw [here] at found
          cases found
        | some node =>
          rw [here] at found
          exact congrArg some (Except.ok.inj found)
      · rintro ⟨_, other, same, here⟩
        obtain rfl := Except.ok.inj same
        rw [here]

/-- What can be read is a file that is found. -/
theorem read_eq_ok_iff_find {content : List UInt8} : disk.read path = .ok content ↔
    ∃ time, disk.find path = .ok (.file content time) := by
  unfold read
  rcases disk.find path with cause | ⟨held, time⟩ | time
  · exact iff_of_false nofun nofun
  · constructor
    · intro same
      cases same
      exact ⟨time, rfl⟩
    · rintro ⟨_, same⟩
      cases same
      rfl
  · exact iff_of_false nofun nofun

theorem read_eq_ok_iff_walk {content : List UInt8} : disk.read path = .ok content ↔
    path.fault? = none ∧ ∃ place, disk.walk [] path.parts = .ok place ∧
      disk.kind place = .file content := by
  rw [read_eq_ok_iff_find]
  constructor
  · rintro ⟨time, found⟩
    obtain ⟨sane, place, walk, here⟩ := find_eq_ok_iff.mp found
    exact ⟨sane, place, walk, kind_eq_file_iff.mpr ⟨time, here⟩⟩
  · rintro ⟨sane, place, walk, file⟩
    obtain ⟨time, here⟩ := kind_eq_file_iff.mp file
    exact ⟨time, find_eq_ok_iff.mpr ⟨sane, place, walk, here⟩⟩

/-- What is read does not depend on what the storage refuses. -/
theorem read_congr (same : changed.nodes = disk.nodes) : changed.read path = disk.read path := by
  unfold read find locate
  rw [walk_congr same]
  unfold node?
  rw [same]

/-- A walk to a file ends with the name of the file. -/
theorem split_of_walk_file {content : List UInt8} (walk : disk.walk [] path.parts = .ok place)
    (file : disk.kind place = .file content) :
    ∃ front name, path.Split front name ∧ ∃ above, disk.walk [] front = .ok above ∧
      disk.step above name = .ok place := by
  rcases List.eq_nil_or_concat path.parts with none | ⟨front, name, parts⟩
  · rw [none] at walk
    obtain rfl := Except.ok.inj walk
    cases file
  · rw [List.concat_eq_append] at parts
    rw [parts] at walk
    obtain ⟨above, before, last⟩ := walk_append_eq_ok_iff.mp walk
    rw [walk_single] at last
    have directory := directory_of_step last
    have way := (way_root disk).walk before
    refine ⟨front, name, ⟨parts, ?_, ?_⟩, above, before, last⟩
    · by_contra idle
      rw [step_of_directory directory, if_pos (Bool.of_not_eq_false idle)] at last
      obtain rfl := Except.ok.inj last
      rw [directory] at file
      cases file
    · rintro rfl
      rw [step_of_directory directory, if_neg (by decide), if_pos rfl] at last
      obtain rfl := Except.ok.inj last
      by_cases root : above = []
      · subst root
        cases file
      · have shorter : above.dropLast ≠ above := by
          intro same
          have := congrArg List.length same
          rw [List.length_dropLast] at this
          have := List.length_pos_iff.mpr root
          omega
        rw [way _ (List.dropLast_prefix above) shorter] at file
        cases file

/-- A path that ends in a name leads to what there is below its directory. -/
theorem walk_of_placeFor (named : path.EndsInName) (found : disk.placeFor path none = .ok place)
    (present : disk.kind place ≠ .nothing) : disk.walk [] path.parts = .ok place := by
  obtain ⟨_, short, above, walk, rfl⟩ := placeFor_eq_ok_iff.mp found
  obtain ⟨before, directory⟩ := walk_dot_iff.mp walk
  rw [named.split.parts]
  refine walk_append_eq_ok_iff.mpr ⟨above, before, ?_⟩
  rw [walk_single]
  exact (step_name named.split.name).mpr ⟨directory, short, rfl, present⟩

/-- **A file is found at the place below the directory that its path speaks of.** -/
theorem find_eq_file_iff {content : List UInt8} {time : Stamp} :
    disk.find path = .ok (.file content time) ↔
      path.EndsInName ∧ ∃ place, disk.placeFor path none = .ok place ∧
        disk.node? place = some (.file content time) := by
  rw [find_eq_ok_iff]
  constructor
  · rintro ⟨sane, place, walk, here⟩
    have file : disk.kind place = .file content := kind_eq_file_iff.mpr ⟨time, here⟩
    obtain ⟨front, name, split, above, before, last⟩ := split_of_walk_file walk file
    obtain ⟨directory, short, rfl, _⟩ := (step_name split.name).mp last
    refine ⟨split.endsInName, above ++ [name], placeFor_eq_ok_iff.mpr ?_, here⟩
    rw [split.last, split.front_eq]
    exact ⟨sane, short, above, walk_dot_iff.mpr ⟨before, directory⟩, rfl⟩
  · rintro ⟨named, place, found, here⟩
    refine ⟨(placeFor_eq_ok_iff.mp found).1, place, walk_of_placeFor named found ?_, here⟩
    rw [kind_eq_file_iff.mpr ⟨time, here⟩]
    exact nofun

theorem read_eq_ok_iff {content : List UInt8} : disk.read path = .ok content ↔
    path.EndsInName ∧ ∃ place, disk.placeFor path none = .ok place ∧
      disk.kind place = .file content := by
  rw [read_eq_ok_iff_find]
  constructor
  · rintro ⟨time, found⟩
    obtain ⟨named, place, lies, here⟩ := find_eq_file_iff.mp found
    exact ⟨named, place, lies, kind_eq_file_iff.mpr ⟨time, here⟩⟩
  · rintro ⟨named, place, lies, file⟩
    obtain ⟨time, here⟩ := kind_eq_file_iff.mp file
    exact ⟨time, find_eq_file_iff.mpr ⟨named, place, lies, here⟩⟩

end Paths

end Disk

end TouchDispatch
