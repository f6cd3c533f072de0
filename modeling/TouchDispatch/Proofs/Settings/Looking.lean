/-
**What a look at the settings file comes to.**

* `load_of_table`, `load_of_none`: a table is loaded as it is, and over anything else an empty one
  is written;
* `poll_of_seen`, `poll_of_unseen`, `poll_of_gone`: a look does nothing, reloads the file or writes
  it, by what is known of its time;
* `reload_cases`: a reload finds what is in memory, or announces what it finds.
-/

import TouchDispatch.Proofs.Settings.Deed
import TouchDispatch.Proofs.Settings.Saving
import TouchDispatch.Settings.Watch

namespace TouchDispatch.Settings

variable {store : Store} {disk changed : Disk} {path : Path} {table : Table} {watch : Watch}
  {time : Stamp}

/-! ### Loading -/

/-- Loading either takes the file as it is, or writes an empty table over it. -/
theorem load_cases (disk : Disk) (path : Path) :
    load disk path = (held disk path, disk) ∨
      held disk path = [] ∧ load disk path = ([], (save disk path []).2) := by
  unfold load held
  cases disk.read path with
  | error cause => exact Or.inr ⟨rfl, rfl⟩
  | ok content =>
    dsimp only
    cases readTable? content with
    | none => exact Or.inr ⟨rfl, rfl⟩
    | some table => exact Or.inl rfl

/-- A file that holds a table is loaded and left alone. -/
theorem load_of_table {octets : List UInt8} (read : disk.read path = .ok octets)
    (reads : readTable? octets = some table) : load disk path = (table, disk) := by
  unfold load
  rw [read]
  dsimp only
  rw [reads]

/-- Over a file that holds no table an empty one is written. -/
theorem load_of_none (none : ∀ octets, disk.read path = .ok octets → readTable? octets = none) :
    load disk path = ([], (save disk path []).2) := by
  unfold load
  split
  · rfl
  · next octets read => rw [none octets read]

/-! ### Looking -/

/-- A look at a file with a known time does nothing. -/
theorem poll_of_seen (file : store.path = some path) (modified : disk.modified? path = some time)
    (seen : watch.seen = some time) : watch.poll store disk = { watch, store, disk } := by
  unfold Watch.poll
  rw [file]
  dsimp only
  rw [modified]
  dsimp only
  rw [if_pos seen]

/-- A look at a file with an unknown time is a reload. -/
theorem poll_of_unseen (file : store.path = some path) (modified : disk.modified? path = some time)
    (unseen : watch.seen ≠ some time) :
    watch.poll store disk =
      { watch := ⟨some time⟩
        store := (store.reload disk).store
        disk := (store.reload disk).disk
        names := (store.reload disk).result } := by
  unfold Watch.poll
  rw [file]
  dsimp only
  rw [modified]
  dsimp only
  rw [if_neg unseen]

/-- A look at a missing file writes the table in memory. -/
theorem poll_of_gone (file : store.path = some path) (missing : disk.modified? path = none)
    (saved : save disk path store.table = (none, changed)) :
    watch.poll store disk =
      { watch := ⟨changed.modified? path⟩
        store
        disk := changed
        complaint := some restored } := by
  unfold Watch.poll Store.persist Store.saveTable
  rw [file]
  dsimp only
  rw [missing]
  dsimp only
  rw [saved]

/-- A reload finds what is in memory, or it announces what it finds. -/
theorem reload_cases (disk : Disk) (file : store.path = some path) :
    difference store.table (held disk path) = [] ∧
        store.reload disk = ⟨[], store, (load disk path).2⟩ ∨
      difference store.table (held disk path) ≠ [] ∧
        store.reload disk = ⟨difference store.table (held disk path),
          store.announce (held disk path) (difference store.table (held disk path)),
          (load disk path).2⟩ := by
  rw [← load_fst]
  exact reload_of_file disk file

theorem reload_disk (disk : Disk) (file : store.path = some path) :
    (store.reload disk).disk = (load disk path).2 := by
  rcases reload_cases disk file with ⟨_, reloaded⟩ | ⟨_, reloaded⟩
  · rw [reloaded]
  · rw [reloaded]

end TouchDispatch.Settings
