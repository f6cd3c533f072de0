/-
**An outside edit is taken over unless the daemon writes first.**

Between an edit of the settings file and the next look at the file nothing keeps the daemon from
writing. Whatever it writes is the table in memory, which knows nothing of the edit:

* `Act.Beside`: values are merged that leave a name out, or listeners come, read and leave;
* `Edited`: as long as nothing was written, the edit waits in the file with its time;
* `Rewritten`: once something was written, the file comes to the table in memory;
* `edit_taken_over`: **an edit is taken over and told to everybody by the next look at the file, if
  nothing was written in between; otherwise it is lost.**
-/

import TouchDispatch.Proofs.Disk.Times
import TouchDispatch.Proofs.Settings.Accord
import TouchDispatch.Proofs.Settings.History

namespace TouchDispatch.Settings

open TouchDispatch.Json

variable {store : Store} {disk changed : Disk} {path : Path} {table values : Table}
  {octets : List UInt8} {time : Stamp} {name : String} {cause : IoCause} {listener : Nat}

/-! ### Writing and looking -/

/-- **A save that fails leaves the settings file as it was, with its time.** -/
theorem find_of_save_failed (failed : save disk path table = (some cause, changed))
    (found : disk.find path = .ok (.file octets time)) :
    changed.find path = .ok (.file octets time) := by
  have named := (Disk.find_eq_file_iff.mp found).1
  have above := Disk.timely_makeParent (draft path).last disk path
  have timely : Disk.Timely (draft path).last disk changed := by
    rcases save_failed_cases failed with rfl | written
    · exact above
    · exact above.trans (Disk.timely_write written)
  exact timely.find (save_failed failed) (last_ne_draft named) found

/-- What a merge is not given, it leaves as it is. -/
theorem get?_merge_of_get?_none (table : Table) (left : values.get? name = none) :
    (merge table values).1.get? name = table.get? name :=
  get?_merge table values name fun named =>
    mem_names_iff.mp ((names_merge_sublist table values).mem named) left

/-- A look at a file that comes to the table in memory changes nothing of the store. -/
theorem poll_of_accord (accord : Accord path store disk) (spares : Spares disk path)
    (watch : Watch) :
    (watch.poll store disk).store = store ∧
      held (watch.poll store disk).disk path = store.table := by
  have reloaded := reload_of_accord accord
  have loaded := held_load accord.sound spares
  have persisted := accord_persist accord spares
  unfold Watch.poll
  rw [accord.file]
  dsimp only
  split
  · split
    · exact ⟨rfl, accord.held⟩
    · rw [reloaded]
      exact ⟨rfl, loaded.1.trans accord.held⟩
  · split
    · next saved =>
      rw [saved] at persisted
      exact ⟨rfl, persisted.held⟩
    · next saved =>
      rw [saved] at persisted
      exact ⟨rfl, persisted.held⟩

/-- **A look at a file with another time takes over the table that it holds.** -/
theorem poll_of_edit {watch : Watch} (file : store.path = some path)
    (found : disk.find path = .ok (.file octets time)) (late : time.isEarly = false)
    (reads : readTable? octets = some table) (unseen : watch.seen ≠ some time)
    (differs : ¬SameAt name store.table table) :
    (watch.poll store disk).store = store.announce table (difference store.table table) := by
  have modified : disk.modified? path = some time :=
    Disk.modified_eq_some_iff.mpr ⟨_, found, rfl, late⟩
  have read : disk.read path = .ok octets := Disk.read_eq_ok_iff_find.mpr ⟨time, found⟩
  have holds : held disk path = table := by
    rw [held_of_read read, reads]
    rfl
  have named : difference store.table (held disk path) ≠ [] := by
    intro none
    rw [holds] at none
    exact differs (sameAt_of_not_mem_difference (none ▸ List.not_mem_nil))
  rcases reload_cases disk file with ⟨same, _⟩ | ⟨_, reloaded⟩
  · exact absurd same named
  · rw [poll_of_unseen file modified unseen, reloaded, holds]

/-! ### What happens between the edit and the look -/

/-- Somebody merges values that leave a name out, or listeners come, read or leave. Nobody looks at
the file. -/
def Act.Beside (name : String) : Act → Prop
  | deed (.update values) => values.get? name = none
  | deed _ | poll => False
  | subscribe | unsubscribe _ | receive _ => True

/-- Two scenes that differ in their listeners only. -/
structure Scene.Alike (before after : Scene) : Prop where
  path : after.store.path = before.store.path
  table : after.store.table = before.store.table
  revision : after.store.revision = before.store.revision
  disk : after.disk = before.disk
  watch : after.watch = before.watch

/-- What happens beside is an update, or it concerns the listeners only. -/
theorem Act.Beside.cases {act : Act} (beside : act.Beside name) (listener : Nat) (scene : Scene) :
    (∃ values, values.get? name = none ∧ act = .deed (.update values)) ∨
      scene.Alike (scene.act listener act) := by
  cases act with
  | deed deed =>
    cases deed with
    | update values => exact Or.inl ⟨values, beside, rfl⟩
    | set | post | reload | persist | disturb => cases beside
  | poll => cases beside
  | subscribe => exact Or.inr ⟨rfl, rfl, rfl, rfl, rfl⟩
  | unsubscribe other => exact Or.inr ⟨rfl, rfl, rfl, rfl, rfl⟩
  | receive other =>
    refine Or.inr ?_
    unfold Scene.act Store.receive
    dsimp only
    split
    · exact ⟨rfl, rfl, rfl, rfl, rfl⟩
    · exact ⟨rfl, rfl, rfl, rfl, rfl⟩

/-- The file was edited. As long as nothing was written, the edit is still there, with its time. -/
structure Edited (opening : Scene) (path : Path) (octets : List UInt8) (time : Stamp)
    (name : String) (now : Scene) : Prop where
  file : now.store.path = some path
  watch : now.watch = opening.watch
  rising : opening.store.revision ≤ now.store.revision
  kept : now.store.table.get? name = opening.store.table.get? name
  table : now.store.revision = opening.store.revision → now.store.table = opening.store.table
  found : now.store.revision = opening.store.revision →
    now.disk.find path = .ok (.file octets time)

/-- **What happens beside writes the file or leaves the edit there.** -/
theorem edited_act {opening now : Scene} {act : Act}
    (edited : Edited opening path octets time name now) (beside : act.Beside name) :
    Edited opening path octets time name (now.act listener act) := by
  rcases beside.cases listener now with ⟨values, left, rfl⟩ | alike
  · show Edited opening path octets time name
      { now with
        store := (now.store.update now.disk values).store
        disk := (now.store.update now.disk values).disk }
    rcases update_cases now.store now.disk values with
      ⟨_, update⟩ | ⟨cause, changed, failed, update⟩ | ⟨_, changed, _, update⟩
    · rw [update]
      exact edited
    · rw [saveTable_of_file edited.file] at failed
      rw [update]
      exact { edited with found := fun same => find_of_save_failed failed (edited.found same) }
    · have risen : opening.store.revision < now.store.revision + 1 :=
        Nat.lt_succ_of_le edited.rising
      rw [update]
      exact ⟨edited.file, edited.watch, risen.le,
        (get?_merge_of_get?_none _ left).trans edited.kept, fun same => absurd same risen.ne',
        fun same => absurd same risen.ne'⟩
  · constructor
    case file => exact alike.path.trans edited.file
    case watch => exact alike.watch.trans edited.watch
    case rising => exact alike.revision ▸ edited.rising
    case kept => rw [alike.table, edited.kept]
    case table => rw [alike.revision, alike.table]; exact edited.table
    case found => rw [alike.revision, alike.disk]; exact edited.found

/-- The file was edited. Once something was written, the file comes to the table in memory. -/
structure Rewritten (opening : Scene) (path : Path) (now : Scene) : Prop where
  faithful : Faithful now.store.table
  sound : now.disk.Sound
  held : now.store.revision ≠ opening.store.revision → held now.disk path = now.store.table

/-- The values of an update can be stored. -/
def Act.Storable : Act → Prop
  | deed (.update values) => ∀ member ∈ values, Settings.Storable member.2
  | _ => True

/-- **What happens beside keeps file and memory together once they are.** -/
theorem rewritten_act {opening now : Scene} {act : Act} (plain : ".." ∉ path.parts)
    (edited : Edited opening path octets time name now) (rewritten : Rewritten opening path now)
    (beside : act.Beside name) (storable : act.Storable) :
    Rewritten opening path (now.act listener act) := by
  rcases beside.cases listener now with ⟨values, _, rfl⟩ | alike
  · show Rewritten opening path
      { now with
        store := (now.store.update now.disk values).store
        disk := (now.store.update now.disk values).disk }
    have spares := spares_plain rewritten.sound plain
    have merged := rewritten.faithful.merge storable
    rcases update_cases now.store now.disk values with
      ⟨_, update⟩ | ⟨cause, changed, failed, update⟩ | ⟨_, changed, done, update⟩
    · rw [update]
      exact rewritten
    · rw [saveTable_of_file edited.file] at failed
      rw [update]
      exact ⟨rewritten.faithful, (save_failed failed).sound rewritten.sound, fun risen =>
        (spares _ _ _ failed).trans (rewritten.held risen)⟩
    · rw [saveTable_of_file edited.file] at done
      obtain ⟨holds, sound⟩ := held_of_save_done rewritten.sound merged done
      rw [update]
      exact ⟨merged, sound, fun _ => holds⟩
  · constructor
    case faithful => exact alike.table ▸ rewritten.faithful
    case sound => exact alike.disk ▸ rewritten.sound
    case held => rw [alike.revision, alike.disk, alike.table]; exact rewritten.held

section Runs

variable {opening : Scene} {acts : List Act}

theorem edited_run (edited : Edited opening path octets time name opening)
    (beside : ∀ act ∈ acts, act.Beside name) :
    Edited opening path octets time name (opening.after listener acts) := by
  induction acts using List.reverseRec with
  | nil => exact edited
  | append_singleton acts act ih =>
    rw [Scene.after_concat]
    exact edited_act (ih fun other done => beside other (List.mem_append_left _ done))
      (beside act List.mem_concat_self)

theorem rewritten_run (plain : ".." ∉ path.parts)
    (edited : Edited opening path octets time name opening)
    (rewritten : Rewritten opening path opening) (beside : ∀ act ∈ acts, act.Beside name)
    (storable : ∀ act ∈ acts, act.Storable) :
    Rewritten opening path (opening.after listener acts) := by
  induction acts using List.reverseRec with
  | nil => exact rewritten
  | append_singleton acts act ih =>
    have earlier : ∀ other ∈ acts, other.Beside name := fun other done =>
      beside other (List.mem_append_left _ done)
    rw [Scene.after_concat]
    exact rewritten_act plain (edited_run edited earlier)
      (ih earlier fun other done => storable other (List.mem_append_left _ done))
      (beside act List.mem_concat_self) (storable act List.mem_concat_self)

end Runs

/-- **An outside edit is taken over and told to everybody by the next look at the file, if nothing
was written in between.** The edit has a time of its own and gives a name another value, and the
values that are merged in the meantime leave that name out. **If something was written in between,
the edit is lost**: the file comes to the table in memory again, which holds the old value, and
nobody is told. -/
theorem edit_taken_over (scene : Scene) (listener : Nat) (path : Path) (edited : Disk)
    (octets : List UInt8) (table : Table) (time : Stamp) (name : String) (acts : List Act)
    (file : scene.store.path = some path) (read : edited.read path = .ok octets)
    (reads : readTable? octets = some table) (modified : edited.modified? path = some time)
    (unseen : scene.watch.seen ≠ some time) (differs : ¬SameAt name scene.store.table table)
    (beside : ∀ act ∈ acts, act.Beside name) :
    let before := scene.after listener (.deed (.disturb edited) :: acts)
    let final := before.act listener .poll
    (before.store.revision = scene.store.revision →
      final.store.table.get? name = table.get? name ∧
        (before.store.Hears listener →
          ∃ change ∈ final.received listener, change.touches name = true)) ∧
    (before.store.revision ≠ scene.store.revision → Faithful scene.store.table → edited.Sound →
      ".." ∉ path.parts → (∀ act ∈ acts, act.Storable) →
        final.store = before.store ∧ held final.disk path = final.store.table ∧
          final.store.table.get? name = scene.store.table.get? name) := by
  intro before final
  let opening : Scene := { scene with disk := edited }
  have start : Edited opening path octets time name opening :=
    ⟨file, rfl, Nat.le_refl _, rfl, fun _ => rfl, fun _ => Disk.find_of_read read modified⟩
  have waits : Edited opening path octets time name before := edited_run start beside
  obtain ⟨_, _, _, late⟩ := Disk.modified_eq_some_iff.mp modified
  constructor
  · intro quiet
    have same : before.store.table = scene.store.table := waits.table quiet
    have polled : final.store = before.store.announce table (difference before.store.table table) :=
      poll_of_edit waits.file (waits.found quiet) late reads (waits.watch ▸ unseen) (same ▸ differs)
    obtain ⟨news, told⟩ := told_announce before.store table _ fun name =>
      sameAt_of_not_mem_difference
    rw [← polled] at told
    refine ⟨by rw [polled]; rfl, fun hears => ?_⟩
    rcases told.touched name with alike | ⟨change, announced, touches⟩
    · rw [polled, same] at alike
      exact absurd alike differs
    · refine ⟨change, List.mem_append_right _ ?_, touches⟩
      rw [unread_told told hears]
      exact List.mem_append_right _ announced
  · intro risen faithful sound plain storable
    have rewritten : Rewritten opening path before :=
      rewritten_run plain start ⟨faithful, sound, absurd rfl⟩ beside storable
    have accord : Accord path before.store before.disk :=
      ⟨waits.file, rewritten.held risen, rewritten.faithful, rewritten.sound⟩
    obtain ⟨same, holds⟩ :=
      poll_of_accord accord (spares_plain rewritten.sound plain) before.watch
    have same : final.store = before.store := same
    rw [same]
    exact ⟨rfl, holds, waits.kept⟩

/-- The storage is full when the daemon is to write, so the edit waits, and the next look at the
file takes it over. -/
theorem edit_taken_over_on_full_storage :
    let path : Path := ⟨["settings.json"]⟩
    let store : Store := { path := some path }
    let edit : Table := [(sliderName, .text "1,4,2")]
    let edited : Disk :=
      { nodes := [(["settings.json"], .file (content edit) (.given 5000))]
        refusals := [((.rename, path), ⟨28⟩)] }
    let scene : Scene := { store := store.subscribe.2, disk := {}, watch := {} }
    let acts : List Act := [.deed (.disturb edited), .deed (.update [("other", .bool true)])]
    let final := (scene.after 0 acts).act 0 .poll
    (scene.after 0 acts).disk.read (draft path) ≠ edited.read (draft path) ∧
      final.store.table.get? sliderName = some (.text "1,4,2") ∧
        ∃ change ∈ final.received 0, change.touches sliderName = true := by
  intro path store edit edited scene acts final
  have reads : readTable? (content edit) = some edit := by
    refine readTable_content (faithful_nil.insert sliderName (storable_of_scalar rfl nofun))
  have differs : ¬SameAt sliderName scene.store.table edit := by
    rintro (same | ⟨_, _, found, _⟩)
    · cases same
    · cases found
  have beside : ∀ act ∈ [Act.deed (.update [("other", .bool true)])], act.Beside sliderName := by
    intro act member
    obtain rfl := List.mem_singleton.mp member
    show Fields.get? [("other", Value.bool true)] sliderName = none
    decide
  have taken := (edit_taken_over scene 0 path edited (content edit) edit (.given 5000) sliderName
    [.deed (.update [("other", .bool true)])] rfl (by decide +kernel) reads (by decide +kernel)
    nofun differs beside).1 (by decide +kernel)
  exact ⟨by decide +kernel, taken.1, taken.2 (by decide +kernel)⟩

/-- With room on the storage the daemon writes over the edit, and nobody hears of it. -/
theorem edit_lost_on_disk :
    let path : Path := ⟨["settings.json"]⟩
    let store : Store := { path := some path }
    let edit : Table := [(sliderName, .text "1,4,2")]
    let edited : Disk := { nodes := [(["settings.json"], .file (content edit) (.given 5000))] }
    let scene : Scene := { store := store.subscribe.2, disk := {}, watch := {} }
    let final := scene.after 0
      [.deed (.disturb edited), .deed (.update [("other", .bool true)]), .poll]
    word (held edited path) sliderName "" = "1,4,2" ∧
      edited.modified? path ≠ scene.watch.seen ∧ final.store.Hears 0 ∧
        word final.store.table sliderName "" = "" ∧
          (final.received 0).map Change.names = [["other"]] := by
  decide +kernel

end TouchDispatch.Settings
