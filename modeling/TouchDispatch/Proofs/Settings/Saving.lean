/-
**What a save leaves in the settings file.**

* `save_failed`: a save that fails leaves every file as it was, but for the draft beside it;
* `save_written`: a save that works writes the text of the table, which gives the file a new time;
* `readTable_reread`: **a table is read from its text with each number as a reader makes it of the
  text of the number**;
* `Faithful`, `readTable_content`: a table in order, without floating-point numbers, is read back;
* `held`: the table that the settings file comes to, whatever there is in its place;
* `save_cases`: **a save changes what the file comes to, to the new table, or not at all.**

The last one needs a word about paths with a way up. Such a path may lead through a directory that
the save itself makes first, and then to another file; `Spares` says that this is not so.
-/

import TouchDispatch.Proofs.Disk.Change
import TouchDispatch.Proofs.Json.Rereading
import TouchDispatch.Proofs.Text.Encoding
import TouchDispatch.Settings.File

namespace TouchDispatch.Settings

open TouchDispatch.Json TouchDispatch.Text

variable {disk changed : Disk} {path : Path} {table : Table} {cause : IoCause}

/-! ### The draft -/

/-- A name with the extension of the draft is no dots and not empty. -/
theorem isName_draft (name : String) : Path.IsName (name ++ ".tmp") := by
  have long : 4 ≤ (name ++ ".tmp").length := by
    rw [String.length_append]
    exact Nat.le_add_left 4 _
  have apart : ∀ short : String, short.length < 4 → name ++ ".tmp" ≠ short := by
    rintro short less rfl
    omega
  refine ⟨Bool.or_eq_false_iff.mpr ⟨?_, ?_⟩, apart ".." (by decide)⟩
  · exact beq_eq_false_iff_ne.mpr (apart "" (by decide))
  · exact beq_eq_false_iff_ne.mpr (apart "." (by decide))

theorem draft_split {front : List String} {name : String} (parts : path.parts = front ++ [name]) :
    (draft path).Split front (name ++ ".tmp") := by
  refine ⟨?_, isName_draft name⟩
  unfold draft Path.extended
  rw [parts, List.getLast?_concat]
  dsimp only
  rw [List.dropLast_concat]

/-- The draft is not the settings file itself. -/
theorem last_ne_draft (named : path.EndsInName) : path.last ≠ (draft path).last := by
  rw [(draft_split named.split.parts).last]
  intro same
  have length := congrArg String.length same
  rw [String.length_append] at length
  have four : ".tmp".length = 4 := by decide
  omega

/-! ### Failures and successes -/

/-- A save that fails has made directories, and at most written the draft. -/
theorem save_failed_cases (failed : save disk path table = (some cause, changed)) :
    changed = (disk.makeParent path).2 ∨
      (disk.makeParent path).2.write (draft path) (content table) = .ok changed := by
  unfold save at failed
  split at failed
  · next makes =>
    cases failed
    exact Or.inl (congrArg Prod.snd makes).symm
  · next middle makes =>
    rw [makes]
    split at failed
    · cases failed
      exact Or.inl rfl
    · next written =>
      split at failed
      · cases failed
        exact Or.inr written
      · cases failed

/-- **A save that fails leaves every file as it was, but for the draft.** -/
theorem save_failed (failed : save disk path table = (some cause, changed)) :
    Disk.Grown (draft path).last disk changed := by
  have above := Disk.grown_makeParent (draft path).last disk path
  rcases save_failed_cases failed with rfl | written
  · exact above
  · exact above.trans (Disk.grown_write written)

/-- **A save that works writes the text of the table.** -/
theorem save_written (sound : disk.Sound) (done : save disk path table = (none, changed)) :
    changed.Written path (content table) ∧ changed.Sound := by
  have above := Disk.grown_makeParent (draft path).last disk path
  unfold save at done
  split at done
  · cases done
  · next middle makes =>
    rw [makes] at above
    split at done
    · cases done
    · next drafted written =>
      have soundDrafted := (above.trans (Disk.grown_write written)).sound sound
      obtain ⟨serial, found⟩ := Disk.written_of_write written
      split at done
      · cases done
      · next moved =>
        cases done
        obtain ⟨there, soundAfter⟩ := soundDrafted.moved found moved
        exact ⟨⟨serial, there⟩, soundAfter⟩

/-- What a save that works has written is read. -/
theorem save_done (sound : disk.Sound) (done : save disk path table = (none, changed)) :
    changed.read path = .ok (content table) ∧ changed.Sound :=
  (save_written sound done).imp_left Disk.Written.read

/-- What is read at the path of the settings is still read there after a save that failed. -/
theorem read_of_save_failed {content : List UInt8}
    (failed : save disk path table = (some cause, changed))
    (read : disk.read path = .ok content) : changed.read path = .ok content :=
  (save_failed failed).read (last_ne_draft (Disk.read_eq_ok_iff.mp read).1) read

/-- Without a way up in the path, nothing comes to be read there either. -/
theorem read_iff_of_save_failed {content : List UInt8} (sound : disk.Sound)
    (plain : ".." ∉ path.parts) (failed : save disk path table = (some cause, changed)) :
    changed.read path = .ok content ↔ disk.read path = .ok content := by
  by_cases named : path.EndsInName
  · exact (save_failed failed).read_iff sound (last_ne_draft named) plain
  · constructor
    · exact fun read => absurd (Disk.read_eq_ok_iff.mp read).1 named
    · exact fun read => absurd (Disk.read_eq_ok_iff.mp read).1 named

/-! ### Tables that are read back -/

/-- A table that is read back as it was written: in order, of no greater depth than can be read,
and without floating-point numbers. -/
structure Faithful (table : Table) : Prop where
  ordered : table.Ordered
  legible : LegibleMembers (depthLimit - 1) table
  exact : ExactMembers table

theorem faithful_nil : Faithful [] :=
  ⟨Fields.ordered_nil, trivial, trivial⟩

theorem Faithful.given (faithful : Faithful table) : GivenMembers (depthLimit - 1) table := by
  have none := memberDoubles_of_exact table faithful.exact
  exact ⟨faithful.ordered, faithful.legible, none ▸ List.forall_mem_nil _⟩

/-- **A table is read from its text with each number as it is read from its text.** -/
theorem readTable_reread (given : GivenMembers (depthLimit - 1) table) :
    readTable? (content table) = some (rereadMembers table) := by
  have decoded : Utf8.decode (content table) = .ok table.pretty.toList := by
    rw [content, Utf8.octets, Utf8.decode_encode]
  unfold readTable?
  rw [decoded]
  dsimp only
  rw [content, object_reread given]

/-- A faithful table is read back. -/
theorem readTable_content (faithful : Faithful table) :
    readTable? (content table) = some table := by
  rw [readTable_reread faithful.given, rereadMembers_of_exact faithful.exact]

/-- The table that the settings file comes to: an empty one if it is missing or cannot be read, is
no well-formed text or holds no object. -/
def held (disk : Disk) (path : Path) : Table :=
  match disk.read path with
  | .error _ => []
  | .ok content => (readTable? content).getD []

/-- **After a save that works the file comes to the table that was saved.** -/
theorem held_of_save_done (sound : disk.Sound) (faithful : Faithful table)
    (done : save disk path table = (none, changed)) :
    held changed path = table ∧ changed.Sound := by
  obtain ⟨read, soundAfter⟩ := save_done sound done
  unfold held
  rw [read]
  dsimp only
  rw [readTable_content faithful]
  exact ⟨rfl, soundAfter⟩

/-- Loading gives what the file comes to. -/
theorem load_fst (disk : Disk) (path : Path) : (load disk path).1 = held disk path := by
  unfold load held
  cases disk.read path with
  | error cause => rfl
  | ok content =>
    dsimp only
    cases readTable? content <;> rfl

/-- What the file comes to can be read. -/
theorem given_held (disk : Disk) (path : Path) :
    GivenMembers (depthLimit - 1) (held disk path) := by
  unfold held readTable?
  split
  · exact givenMembers_nil
  · split
    · exact givenMembers_nil
    · split
      · next read => exact given_object read
      · exact givenMembers_nil

/-- What the file comes to is in order, and of no greater depth than can be read. -/
theorem held_legible (disk : Disk) (path : Path) :
    (held disk path).Ordered ∧ LegibleMembers (depthLimit - 1) (held disk path) := by
  obtain ⟨ordered, legible, _⟩ := given_held disk path
  exact ⟨ordered, legible⟩

theorem held_of_read {content : List UInt8} (read : disk.read path = .ok content) :
    held disk path = (readTable? content).getD [] := by
  unfold held
  rw [read]

theorem held_of_unread (unread : ∀ content, disk.read path ≠ .ok content) :
    held disk path = [] := by
  unfold held
  split
  · rfl
  · next content read => exact absurd read (unread content)

/-- What the file comes to does not depend on what the storage refuses. -/
theorem held_congr (same : changed.nodes = disk.nodes) : held changed path = held disk path := by
  unfold held
  rw [Disk.read_congr same]

/-- A save that fails leaves what the settings file comes to. -/
def Spares (disk : Disk) (path : Path) : Prop :=
  ∀ table cause changed, save disk path table = (some cause, changed) →
    held changed path = held disk path

/-- **A save spares the file at every path without a way up.** -/
theorem spares_plain (sound : disk.Sound) (plain : ".." ∉ path.parts) : Spares disk path := by
  intro table cause changed failed
  by_cases there : ∃ content, disk.read path = .ok content
  · obtain ⟨content, read⟩ := there
    rw [held_of_read read, held_of_read (read_of_save_failed failed read)]
  · have unread : ∀ content, disk.read path ≠ .ok content := not_exists.mp there
    have still : ∀ content, changed.read path ≠ .ok content := fun content read =>
      unread content ((read_iff_of_save_failed sound plain failed).mp read)
    rw [held_of_unread unread, held_of_unread still]

/-- **A save makes the file come to the new table, or leaves what it comes to.** -/
theorem save_cases (sound : disk.Sound) (spares : Spares disk path) (faithful : Faithful table) :
    (save disk path table).2.Sound ∧
      match (save disk path table).1 with
      | none => held (save disk path table).2 path = table
      | some _ => held (save disk path table).2 path = held disk path := by
  cases saved : save disk path table with
  | mk outcome changed =>
    cases outcome with
    | none => exact (held_of_save_done sound faithful saved).symm
    | some cause => exact ⟨(save_failed saved).sound sound, spares table cause changed saved⟩

end TouchDispatch.Settings
