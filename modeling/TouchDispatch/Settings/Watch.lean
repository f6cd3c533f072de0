/-
**Watching the settings file for outside edits.**

* `Watch`: the modification time that was seen last;
* `Watch.poll`: reloads a file with another time, and writes back a file that is gone.

A file that is there with a time before 1970 counts as gone, as it shows no time.
-/

import TouchDispatch.Failure
import TouchDispatch.Settings.Store

namespace TouchDispatch.Settings

/-- What is remembered between two looks at the file. -/
structure Watch where
  seen : Option Stamp := none
deriving DecidableEq, Repr

/-- What a look at the file comes to. -/
structure Poll where
  watch : Watch
  store : Store
  disk : Disk
  /-- The names whose values changed, if the file was reloaded. -/
  names : List String := []
  /-- What is to be shown as the last error of the settings. -/
  complaint : Option String := none

/-- The complaint about a file that showed no time and was written again. -/
def restored : String := "settings file missing: rewritten"

namespace Watch

/-- A watch that knows the file as it is now. -/
def ofStore (store : Store) (disk : Disk) : Watch :=
  ⟨store.path.bind disk.modified?⟩

/-- One look at the file. -/
def poll (watch : Watch) (store : Store) (disk : Disk) : Poll :=
  match store.path with
  | none => { watch, store, disk }
  | some path =>
    match disk.modified? path with
    | some time =>
      if watch.seen = some time then { watch, store, disk }
      else
        let outcome := store.reload disk
        { watch := ⟨some time⟩
          store := outcome.store
          disk := outcome.disk
          names := outcome.result }
    | none =>
      match store.persist disk with
      | (none, disk) =>
        { watch := ⟨disk.modified? path⟩, store, disk, complaint := some restored }
      | (some cause, disk) =>
        { watch, store, disk, complaint := some (Failure.io cause).message }

end Watch

end TouchDispatch.Settings
