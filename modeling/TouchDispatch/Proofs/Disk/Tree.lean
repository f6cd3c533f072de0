/-
**What there is at each place of a tree, and how a change alters it.**

* `Kind`, `Disk.kind`: nothing, a directory or a file with its content, times aside;
* `node?_place`, `kind_erase`, `kind_put` and so on: a change alters the tree only at its own place
  and, when something is removed, below it;
* `Disk.Sound`: what there is lies in a directory, as in every real tree;
* `Sound.directory_above`: all places on the way to something are directories;
* `Sound.of_kind`: a change at a place in a directory keeps a tree sound.
-/

import Mathlib.Data.List.Induction
import TouchDispatch.Disk.Basic

namespace TouchDispatch

/-- What there is at a place, its time aside. -/
inductive Kind where
  | nothing
  | directory
  | file (content : List UInt8)
deriving DecidableEq

/-- What a node is, its time aside. -/
def Node.kind : Node → Kind
  | file content _ => .file content
  | directory _ => .directory

@[simp]
theorem Node.kind_stamped (time : Stamp) (node : Node) : (node.stamped time).kind = node.kind := by
  cases node <;> rfl

theorem Node.kind_ne_nothing (node : Node) : node.kind ≠ .nothing := by
  cases node <;> exact nofun

namespace Disk

variable {disk : Disk} {place other : Place} {node : Node}

/-- What there is at a place. -/
def kind (disk : Disk) (place : Place) : Kind :=
  ((disk.node? place).map Node.kind).getD .nothing

theorem kind_eq_nothing_iff : disk.kind place = .nothing ↔ disk.node? place = none := by
  unfold kind
  cases disk.node? place with
  | none => exact iff_of_true rfl rfl
  | some node => exact iff_of_false node.kind_ne_nothing nofun

theorem kind_eq_directory_iff :
    disk.kind place = .directory ↔ ∃ time, disk.node? place = some (.directory time) := by
  unfold kind
  rcases disk.node? place with _ | ⟨content, time⟩ | time
  · exact iff_of_false nofun nofun
  · exact iff_of_false nofun nofun
  · exact iff_of_true rfl ⟨time, rfl⟩

theorem kind_eq_file_iff {content : List UInt8} :
    disk.kind place = .file content ↔ ∃ time, disk.node? place = some (.file content time) := by
  unfold kind
  rcases disk.node? place with _ | ⟨held, time⟩ | time
  · exact iff_of_false nofun nofun
  · constructor
    · intro same
      cases same
      exact ⟨time, rfl⟩
    · rintro ⟨_, same⟩
      cases same
      rfl
  · exact iff_of_false nofun nofun

/-- Only the root has a kind that its entries do not tell. -/
theorem kind_of_ne_root (inner : place ≠ []) :
    disk.kind place = ((disk.nodes.lookup place).map Node.kind).getD .nothing := by
  unfold kind node?
  rw [if_neg inner]

/-! ### Changes of entries -/

theorem lookup_map (change : Place × Node → Node) (nodes : List (Place × Node)) (place : Place) :
    (nodes.map fun entry => (entry.1, change entry)).lookup place =
      (nodes.lookup place).map fun node => change (place, node) := by
  induction nodes with
  | nil => rfl
  | cons entry rest ih =>
    obtain ⟨here, node⟩ := entry
    rw [List.map_cons, List.lookup_cons, List.lookup_cons]
    by_cases same : place = here
    · subst same
      simp
    · have apart : (place == here) = false := beq_eq_false_iff_ne.mpr same
      rw [apart]
      exact ih

theorem lookup_filter {α : Type} (kept : Place → Bool) (entries : List (Place × α))
    (place : Place) :
    (entries.filter fun entry => kept entry.1).lookup place =
      if kept place then entries.lookup place else none := by
  induction entries with
  | nil => exact (ite_self none).symm
  | cons entry rest ih =>
    obtain ⟨here, held⟩ := entry
    rw [List.filter_cons, List.lookup_cons]
    by_cases same : place = here
    · subst same
      by_cases keep : kept place = true
      · simp [keep]
      · simp [keep] at ih ⊢
        exact ih
    · have apart : (place == here) = false := beq_eq_false_iff_ne.mpr same
      rw [apart]
      by_cases keep : kept here = true
      · simp only [keep, if_true, List.lookup_cons, apart, ih]
      · simp only [keep, Bool.false_eq_true, if_false, ih]

/-- An entry put in the place of every entry of its place. -/
theorem map_place (nodes : List (Place × Node)) (change : Node → Node) :
    (nodes.map fun entry => if entry.1 = place then (place, change entry.2) else entry) =
      nodes.map fun entry => (entry.1, if entry.1 = place then change entry.2 else entry.2) := by
  refine List.map_congr_left fun entry _ => ?_
  split
  · next same => rw [same]
  · rfl

/-- **A new time alters the tree at its own place only.** -/
theorem node?_stampPlace (time : Stamp) (apart : other ≠ place) :
    (disk.stampPlace place time).node? other = disk.node? other := by
  unfold node? stampPlace
  dsimp only
  rw [map_place, lookup_map]
  cases disk.nodes.lookup other with
  | none => rfl
  | some node =>
    dsimp only [Option.map_some]
    rw [if_neg apart]

@[simp]
theorem kind_stampPlace (time : Stamp) :
    (disk.stampPlace place time).kind other = disk.kind other := by
  by_cases inner : other = []
  · rw [inner]
    rfl
  · rw [kind_of_ne_root inner, kind_of_ne_root inner]
    show ((List.lookup other (disk.nodes.map fun entry =>
      if entry.1 = place then (place, entry.2.stamped time) else entry)).map _).getD _ = _
    rw [map_place, lookup_map]
    cases disk.nodes.lookup other with
    | none => rfl
    | some node =>
      dsimp only [Option.map_some, Option.getD_some]
      split
      · exact node.kind_stamped time
      · rfl

@[simp]
theorem kind_touchAbove : (disk.touchAbove place).kind other = disk.kind other :=
  kind_stampPlace _

/-- **What is placed alters the tree at its own place only.** -/
theorem node?_place (inner : place ≠ []) :
    (disk.place place node).node? other =
      if other = place then some node else disk.node? other := by
  by_cases root : other = []
  · subst root
    rw [if_neg inner.symm]
    rfl
  unfold node?
  rw [if_neg root, if_neg root]
  unfold Disk.place
  split
  · next found =>
    show List.lookup other (disk.nodes.map fun entry =>
      if entry.1 = place then (place, node) else entry) = _
    rw [map_place disk.nodes fun _ => node, lookup_map]
    by_cases same : other = place
    · subst same
      rw [if_pos rfl]
      obtain ⟨entry, member, here⟩ := List.any_eq_true.mp found
      cases missing : disk.nodes.lookup other with
      | none =>
        exact absurd (List.lookup_eq_none_iff.mp missing entry member)
          (by simp [of_decide_eq_true here])
      | some old => simp
    · rw [if_neg same]
      cases disk.nodes.lookup other with
      | none => rfl
      | some old =>
        dsimp only [Option.map_some]
        rw [if_neg same]
  · next missing =>
    show List.lookup other (disk.nodes ++ [(place, node)]) = _
    rw [List.lookup_append]
    by_cases same : other = place
    · subst same
      have gone : disk.nodes.lookup other = none := by
        refine List.lookup_eq_none_iff.mpr fun entry member => ?_
        refine bne_iff_ne.mpr fun here => missing (List.any_eq_true.mpr ⟨entry, member, ?_⟩)
        exact decide_eq_true here.symm
      rw [gone, if_pos rfl, Option.none_or, List.lookup_cons, BEq.rfl]
    · have apart : (other == place) = false := beq_eq_false_iff_ne.mpr same
      rw [if_neg same, List.lookup_cons, apart, List.lookup_nil, Option.or_none]

theorem kind_place (inner : place ≠ []) :
    (disk.place place node).kind other = if other = place then node.kind else disk.kind other := by
  unfold kind
  rw [node?_place inner]
  split
  · rfl
  · rfl

theorem kind_insert (inner : place ≠ []) :
    (disk.insert place node).kind other = if other = place then node.kind else disk.kind other := by
  unfold Disk.insert
  split
  · exact kind_place inner
  · rw [kind_place inner, kind_touchAbove]

/-- **What a program puts somewhere alters the tree at its own place only.** -/
theorem kind_put (inner : place ≠ []) (make : Stamp → Node) :
    (disk.put place make).kind other =
      if other = place then (make (.written disk.nextSerial)).kind else disk.kind other :=
  kind_insert inner

/-- What a program puts somewhere is there, with the number of the change for its time. -/
theorem node?_put (inner : place ≠ []) (make : Stamp → Node) :
    (disk.put place make).node? place = some (make (.written disk.nextSerial)) := by
  unfold put insert
  split
  · rw [node?_place inner, if_pos rfl]
  · rw [node?_place inner, if_pos rfl]

/-- **What is removed goes with all that lies below it.** -/
theorem kind_erase : (disk.erase place).kind other =
    if other ≠ [] ∧ place <+: other then .nothing else disk.kind other := by
  unfold erase
  rw [kind_touchAbove]
  by_cases root : other = []
  · subst root
    rw [if_neg fun below => below.1 rfl]
    rfl
  rw [kind_of_ne_root root, kind_of_ne_root root]
  show ((List.lookup other (disk.nodes.filter fun entry =>
    !place.isPrefixOf entry.1)).map _).getD _ = _
  rw [lookup_filter fun here => !place.isPrefixOf here]
  by_cases below : place <+: other
  · have removed : place.isPrefixOf other = true := List.isPrefixOf_iff_prefix.mpr below
    rw [removed, if_pos (And.intro root below)]
    rfl
  · have apart : place.isPrefixOf other = false :=
      Bool.of_not_eq_true fun same => below (List.isPrefixOf_iff_prefix.mp same)
    rw [apart, if_neg fun both => below (And.right both)]
    rfl

/-! ### Sound trees -/

/-- What there is lies in a directory. -/
def Sound (disk : Disk) : Prop :=
  ∀ place, place ≠ [] → disk.kind place ≠ .nothing → disk.kind place.dropLast = .directory

theorem sound_nil : Sound {} := by
  intro place inner present
  rw [kind_of_ne_root inner] at present
  exact absurd rfl present

/-- In a sound tree all places on the way to something are directories. -/
theorem Sound.directory_above (sound : disk.Sound) {place above : Place} (before : above <+: place)
    (apart : above ≠ place) (present : disk.kind place ≠ .nothing) :
    disk.kind above = .directory := by
  obtain ⟨below, rfl⟩ := before
  induction below using List.reverseRec with
  | nil => exact absurd (List.append_nil above).symm apart
  | append_singleton below name ih =>
    rw [← List.append_assoc] at present
    have directory := sound _ (List.append_ne_nil_of_right_ne_nil _ (List.cons_ne_nil _ _)) present
    rw [List.dropLast_concat] at directory
    by_cases first : above = above ++ below
    · rw [← first] at directory
      exact directory
    · refine ih first ?_
      rw [directory]
      exact nofun

/-- **A file or a directory put into a directory keeps a tree sound**, unless it takes the place of
a directory. -/
theorem Sound.of_kind (sound : disk.Sound) {changed : Disk} {kind : Kind}
    (alters : ∀ other, changed.kind other = if other = place then kind else disk.kind other)
    (lies : disk.kind place.dropLast = .directory) (free : disk.kind place ≠ .directory) :
    changed.Sound := by
  intro other inner present
  have keeps : ∀ here, disk.kind here = .directory → changed.kind here = .directory := by
    intro here directory
    have apart : here ≠ place := by
      rintro rfl
      exact free directory
    rw [alters, if_neg apart]
    exact directory
  rw [alters] at present
  by_cases same : other = place
  · subst same
    exact keeps _ lies
  · rw [if_neg same] at present
    exact keeps _ (sound other inner present)

end Disk

end TouchDispatch
