/-
**Rewriting a missing file in the midst of updates.**

A look at a settings file that is gone copies the table and then writes the copy back. These are two
steps, and updates may come before, between and after them:

* `Restoring`: the store, its file, and how far the rewriting has come;
* `Restoring.next?`, `Restoring.run?`: updates and the two steps in any order, as long as no writing
  fails;
* `poll_of_missing`: with nothing in between, the two steps are a look at a missing file;
* `Restoring.Kept`, `kept_next`: what the file comes to at each stage, and that every move keeps it;
* `restored_iff`: **the file comes to the table in memory in the end if the copy is that table, or
  if an update has changed something since the copy was written, and otherwise not.**
-/

import TouchDispatch.Proofs.Settings.Accord
import TouchDispatch.Proofs.Settings.Atomic
import TouchDispatch.Settings.Watch

namespace TouchDispatch.Settings

open TouchDispatch.Json

/-- How far the rewriting of a missing file has come. -/
inductive Stage where
  /-- The file was found missing. -/
  | missing
  /-- The table was copied, at the revision `taken`. -/
  | copied (copy : Table) (taken : Nat)
  /-- The copy was written, at the revision `made`. -/
  | written (copy : Table) (taken made : Nat)

/-- A store and its file, while the file is rewritten. With nothing in between, that is a look at a
missing file, by `poll_of_missing`. -/
structure Restoring where
  store : Store
  disk : Disk
  stage : Stage := .missing

/-- An update, or the next step of the rewriting. -/
inductive Move where
  | update (values : Table)
  | rewrite

namespace Restoring

/-- The state after a move. There is none if a file cannot be written, nor if there is nothing left
to rewrite. -/
def next? (state : Restoring) : Move → Option Restoring
  | .update values =>
    match state.store.update state.disk values with
    | ⟨.ok _, store, disk⟩ => some { state with store, disk }
    | ⟨.error _, _, _⟩ => none
  | .rewrite =>
    match state.stage with
    | .missing => some { state with stage := .copied state.store.table state.store.revision }
    | .copied copy taken =>
      match state.store.saveTable state.disk copy with
      | (none, disk) => some { state with disk, stage := .written copy taken state.store.revision }
      | (some _, _) => none
    | .written .. => none

/-- The state after moves, one after another. -/
def run? (state : Restoring) (moves : List Move) : Option Restoring :=
  moves.foldlM next? state

end Restoring

variable {store : Store} {disk : Disk} {path : Path} {state next : Restoring} {move : Move}

/-- **With nothing in between, the two steps are a look at a missing file.** -/
theorem poll_of_missing (watch : Watch) (file : store.path = some path)
    (missing : disk.modified? path = none) {final : Restoring}
    (ran : Restoring.run? ⟨store, disk, .missing⟩ [.rewrite, .rewrite] = some final) :
    watch.poll store disk =
      { watch := ⟨final.disk.modified? path⟩
        store := final.store
        disk := final.disk
        complaint := some restored } := by
  change ((match store.saveTable disk store.table with
    | (none, disk) => some ⟨store, disk, .written store.table store.revision store.revision⟩
    | (some _, _) => none : Option Restoring).bind some) = some final at ran
  rw [saveTable_of_file file] at ran
  rcases saved : save disk path store.table with ⟨_ | cause, changed⟩
  · rw [saved] at ran
    cases ran
    exact poll_of_gone file missing saved
  · rw [saved] at ran
    cases ran

/-! ### What the file comes to -/

/-- What the file comes to at each stage. -/
def Stage.Holds (path : Path) (store : Store) (disk : Disk) : Stage → Prop
  | missing => True
  | copied copy taken => Faithful copy ∧ taken ≤ store.revision ∧
      (taken = store.revision → copy = store.table)
  | written copy taken made => taken ≤ made ∧ made ≤ store.revision ∧
      (made = store.revision → held disk path = copy ∧ (taken = made → copy = store.table)) ∧
        (made < store.revision → held disk path = store.table)

namespace Restoring

/-- The file is that of the store, and comes to what the stage says. -/
structure Kept (path : Path) (state : Restoring) : Prop where
  file : state.store.path = some path
  sound : state.disk.Sound
  faithful : Faithful state.store.table
  holds : state.stage.Holds path state.store state.disk

end Restoring

/-- **Every move keeps what the stage says.** -/
theorem kept_next (kept : state.Kept path)
    (storable : ∀ values, move = .update values → ∀ member ∈ values, Storable member.2)
    (moved : state.next? move = some next) : next.Kept path := by
  obtain ⟨store, disk, stage⟩ := state
  obtain ⟨file, sound, faithful, holds⟩ := kept
  dsimp only at file sound faithful holds
  cases move with
  | update values =>
    unfold Restoring.next? at moved
    dsimp only at moved
    rcases update_cases store disk values with
      ⟨_, update⟩ | ⟨cause, changed, _, update⟩ | ⟨_, changed, done, update⟩
    · rw [update] at moved
      cases moved
      exact ⟨file, sound, faithful, holds⟩
    · rw [update] at moved
      cases moved
    · rw [update] at moved
      cases moved
      rw [saveTable_of_file file] at done
      have merged := faithful.merge (storable values rfl)
      obtain ⟨held, soundAfter⟩ := held_of_save_done sound merged done
      refine ⟨file, soundAfter, merged, ?_⟩
      cases stage with
      | missing => trivial
      | copied copy taken =>
        obtain ⟨faithful, low, _⟩ := holds
        have risen : taken < store.revision + 1 := Nat.lt_succ_of_le low
        exact ⟨faithful, risen.le, fun same => absurd same risen.ne⟩
      | written copy taken made =>
        obtain ⟨ordered, low, _⟩ := holds
        have risen : made < store.revision + 1 := Nat.lt_succ_of_le low
        exact ⟨ordered, risen.le, fun same => absurd same risen.ne, fun _ => held⟩
  | rewrite =>
    unfold Restoring.next? at moved
    dsimp only at moved
    cases stage with
    | missing =>
      cases moved
      exact ⟨file, sound, faithful, faithful, Nat.le_refl _, fun _ => rfl⟩
    | copied copy taken =>
      obtain ⟨exactly, low, same⟩ := holds
      dsimp only at moved
      rw [saveTable_of_file file] at moved
      split at moved
      · next done =>
        cases moved
        obtain ⟨held, soundAfter⟩ := held_of_save_done sound exactly done
        exact ⟨file, soundAfter, faithful, low, Nat.le_refl _, fun _ => ⟨held, same⟩,
          fun risen => absurd risen (Nat.lt_irrefl _)⟩
      · cases moved
    | written => cases moved

theorem kept_run {moves : List Move} {final : Restoring} (kept : state.Kept path)
    (storable : ∀ values, .update values ∈ moves → ∀ member ∈ values, Storable member.2)
    (ran : state.run? moves = some final) : final.Kept path := by
  induction moves generalizing state with
  | nil =>
    cases ran
    exact kept
  | cons move rest ih =>
    change (state.next? move).bind (·.run? rest) = some final at ran
    obtain ⟨next, moved, ran⟩ := Option.bind_eq_some_iff.mp ran
    refine ih (kept_next kept ?_ moved) (fun values member => ?_) ran
    · rintro values rfl
      exact storable values List.mem_cons_self
    · exact storable values (List.mem_cons_of_mem _ member)

/-- **When all is done, the file comes to the table in memory if the copy is that table, or if an
update has changed something since the copy was written, and otherwise not.** So no update is lost,
not even by a store that is opened anew over the file, if none came between the copy and the
writing. If nothing came at all, that was a look at the missing file. -/
theorem restored_iff (store : Store) (disk : Disk) (path : Path) (moves : List Move)
    (final : Restoring) (copy : Table) (taken made : Nat) (file : store.path = some path)
    (sound : disk.Sound) (faithful : Faithful store.table)
    (storable : ∀ values, .update values ∈ moves → ∀ member ∈ values, Storable member.2)
    (ran : Restoring.run? ⟨store, disk, .missing⟩ moves = some final)
    (finished : final.stage = .written copy taken made) :
    (held final.disk path = final.store.table ↔
        copy = final.store.table ∨ made < final.store.revision) ∧
      (taken = made → (Store.ofFile final.disk path).1.table = final.store.table) ∧
      (moves = [.rewrite, .rewrite] → disk.modified? path = none → ∀ watch : Watch,
        watch.poll store disk =
          { watch := ⟨final.disk.modified? path⟩
            store := final.store
            disk := final.disk
            complaint := some restored }) := by
  have start : Restoring.Kept path ⟨store, disk, .missing⟩ := ⟨file, sound, faithful, trivial⟩
  have holds := (kept_run start storable ran).holds
  rw [finished] at holds
  obtain ⟨_, low, still, risen⟩ := holds
  have loaded : (Store.ofFile final.disk path).1.table = held final.disk path :=
    load_fst final.disk path
  have looked : moves = [.rewrite, .rewrite] → disk.modified? path = none → ∀ watch : Watch,
      watch.poll store disk = ⟨⟨final.disk.modified? path⟩, final.store, final.disk, [],
        some restored⟩ := by
    rintro rfl missing watch
    exact poll_of_missing watch file missing ran
  rw [loaded]
  rcases Nat.lt_or_eq_of_le low with higher | same
  · exact ⟨iff_of_true (risen higher) (Or.inr higher), fun _ => risen higher, looked⟩
  · obtain ⟨held, uncut⟩ := still same
    refine ⟨?_, fun untouched => held.trans (uncut untouched), looked⟩
    rw [held, or_iff_left (same ▸ Nat.lt_irrefl _)]

/-- The update that comes between the copy and the writing is in the file in the end, as another one
follows. -/
theorem restored_on_disk :
    let path : Path := ⟨["settings.json"]⟩
    let store : Store := { path := some path }
    let moves : List Move := [.rewrite, .update [("left", .bool true)], .rewrite,
      .update [("right", .bool true)]]
    ∃ final, Restoring.run? ⟨store, {}, .missing⟩ moves = some final ∧
      final.store.table.names = ["left", "right"] ∧ held final.disk path = final.store.table := by
  intro path store moves
  have done : (Restoring.run? ⟨store, {}, .missing⟩ moves).map (fun final =>
      (final.store.table.names, final.store.revision, match final.stage with
        | .written _ taken made => some (taken, made)
        | _ => none)) = some (["left", "right"], 2, some (0, 1)) := by
    decide +kernel
  obtain ⟨final, ran, outcome⟩ := Option.map_eq_some_iff.mp done
  obtain ⟨names, rest⟩ := Prod.mk.inj outcome
  obtain ⟨revision, finished⟩ := Prod.mk.inj rest
  have storable : ∀ values, .update values ∈ moves → ∀ member ∈ values, Storable member.2 := by
    intro values given
    have given : values = [("left", .bool true)] ∨ values = [("right", .bool true)] := by
      simpa [moves] using given
    rcases given with rfl | rfl
    · exact List.forall_mem_singleton.mpr ⟨trivial, trivial⟩
    · exact List.forall_mem_singleton.mpr ⟨trivial, trivial⟩
  cases stage : final.stage with
  | missing | copied => exact nomatch stage ▸ finished
  | written copy taken made =>
    rw [stage] at finished
    cases finished
    have iff := (restored_iff store {} path moves final copy 0 1 rfl Disk.sound_nil faithful_nil
      storable ran stage).1
    exact ⟨final, ran, names, iff.mpr (Or.inr (revision ▸ Nat.one_lt_two))⟩

/-- An update between the copy and the writing is reverted in the file, if no other one follows. -/
theorem update_reverted_on_disk :
    let path : Path := ⟨["settings.json"]⟩
    let store : Store := { path := some path }
    let moves : List Move := [.rewrite, .update [("left", .bool true)], .rewrite]
    (Restoring.run? ⟨store, {}, .missing⟩ moves).map (fun final =>
      (final.store.table.names, (Store.ofFile final.disk path).1.table.names)) =
        some (["left"], []) := by
  decide +kernel

end TouchDispatch.Settings
