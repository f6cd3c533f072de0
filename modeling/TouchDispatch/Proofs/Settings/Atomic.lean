/-
**A change of the settings is made as a whole or not at all.**

* `update_cases`: all that an update can come to;
* `Untouched`: the store and the files after a change that failed: all is as it was, but for the
  draft beside the settings file;
* `Changed`: the store and the files after a change that worked;
* `settings_atomic`: **every change of the settings comes to one of the two, and its answer says to
  which.** A body that is refused changes nothing, and all that is seen of it is the last error in
  the status.
-/

import TouchDispatch.Proofs.Settings.Body
import TouchDispatch.Proofs.Settings.Naming
import TouchDispatch.Proofs.Settings.Saving

namespace TouchDispatch.Settings

open TouchDispatch.Json

variable {store : Store} {disk changed : Disk} {path : Path} {table values : Table}
  {names : List String} {cause : IoCause}

theorem saveTable_of_file (file : store.path = some path) :
    store.saveTable disk table = save disk path table := by
  unfold Store.saveTable
  rw [file]

/-- **All that an update can come to**: nothing changes, the file cannot be written, or it is
written and the change is announced. -/
theorem update_cases (store : Store) (disk : Disk) (values : Table) :
    ((merge store.table values).2 = [] ∧ store.update disk values = ⟨.ok [], store, disk⟩) ∨
    (∃ cause changed, store.saveTable disk (merge store.table values).1 = (some cause, changed) ∧
      store.update disk values = ⟨.error cause, store, changed⟩) ∨
    ((merge store.table values).2 ≠ [] ∧
      ∃ changed, store.saveTable disk (merge store.table values).1 = (none, changed) ∧
        store.update disk values = ⟨.ok (merge store.table values).2,
          store.announce (merge store.table values).1 (merge store.table values).2, changed⟩) := by
  by_cases same : (merge store.table values).2 = []
  · exact Or.inl ⟨same, if_pos same⟩
  · cases saved : store.saveTable disk (merge store.table values).1 with
    | mk outcome changed =>
      cases outcome with
      | some cause =>
        refine Or.inr (Or.inl ⟨cause, changed, rfl, ?_⟩)
        unfold Store.update
        dsimp only
        rw [if_neg same, saved]
      | none =>
        refine Or.inr (Or.inr ⟨same, changed, rfl, ?_⟩)
        unfold Store.update
        dsimp only
        rw [if_neg same, saved]

/-! ### Changes that failed -/

/-- Nothing came of a change: the store is as it was, and so are all files but the draft, which
means that the settings file is read as before. A path with a way up may lead through a directory
that was made, to a file that could not be read before; a file that could be read is the same. -/
structure Untouched (store : Store) (disk : Disk) (after : Store) (changed : Disk) : Prop where
  same : after = store
  memory : store.path = none → changed = disk
  files : ∀ path, store.path = some path → Disk.Grown (draft path).last disk changed
  read : ∀ path content, store.path = some path → disk.read path = .ok content →
    changed.read path = .ok content
  read_iff : ∀ path content, store.path = some path → disk.Sound → ".." ∉ path.parts →
    (changed.read path = .ok content ↔ disk.read path = .ok content)

theorem untouched_of_saveTable (failed : store.saveTable disk table = (some cause, changed)) :
    Untouched store disk store changed := by
  unfold Store.saveTable at failed
  split at failed
  · next path file =>
    have same : ∀ other, store.path = some other → other = path := fun other here =>
      Option.some.inj (here.symm.trans file)
    refine ⟨rfl, fun missing => absurd (file.symm.trans missing) nofun, ?_, ?_, ?_⟩
    · rintro other here
      exact same other here ▸ save_failed failed
    · rintro other content here read
      obtain rfl := same other here
      exact read_of_save_failed failed read
    · rintro other content here sound plain
      obtain rfl := same other here
      exact read_iff_of_save_failed sound plain failed
  · cases failed

/-! ### Changes that worked -/

/-- A change was made: values that were not the same are set, the names tell which, and only if
there are any, the file is written, the revision goes up by one and the listeners are told. -/
structure Changed (store : Store) (disk : Disk) (values : Table) (names : List String)
    (after : Store) (changed : Disk) : Prop where
  kept : ∀ name, values.get? name = none → after.table.get? name = store.table.get? name
  set : ∀ name value, values.get? name = some value →
    ∃ held, after.table.get? name = some held ∧ held.same value = true
  tells : Tells names store.table after.table
  silent : names = [] → after = store ∧ changed = disk
  revision : names ≠ [] → after.revision = store.revision + 1
  told : names ≠ [] → after.inboxes =
    store.inboxes.map (Option.map (· ++ [⟨names, store.revision + 1⟩]))
  written : names ≠ [] → ∀ path, store.path = some path → disk.Sound →
    changed.read path = .ok (content after.table)

/-- A merge that names nothing changes nothing. -/
theorem merge_of_silent (silent : (merge table values).2 = []) :
    (merge table values).1 = table := by
  induction values with
  | nil => rfl
  | cons member rest ih =>
    obtain ⟨name, value⟩ := member
    cases held : holds table name value with
    | true =>
      rw [merge_held rest held] at silent ⊢
      exact ih silent
    | false =>
      rw [merge_set rest held] at silent
      cases silent

/-- **The merged table is the old one with the new values over it.** -/
theorem get?_merge_of_get? (ordered : values.Ordered) (table : Table) (name : String) :
    (values.get? name = none → (merge table values).1.get? name = table.get? name) ∧
      ∀ value, values.get? name = some value →
        ∃ held, (merge table values).1.get? name = some held ∧ held.same value = true := by
  by_cases named : name ∈ (merge table values).2
  · have set := get?_merge_of_mem ordered table named
    obtain ⟨value, given, _⟩ := (mem_names_merge ordered table).mp named
    refine ⟨fun missing => absurd (missing.symm.trans given) nofun, fun other found => ?_⟩
    exact ⟨other, set.trans found, other.same_refl⟩
  · have kept := get?_merge table values name named
    refine ⟨fun _ => kept, fun value given => ?_⟩
    have held : holds table name value = true := by
      by_contra differs
      exact named ((mem_names_merge ordered table).mpr
        ⟨value, given, Bool.eq_false_iff.mpr differs⟩)
    unfold holds at held
    split at held
    · next old found => exact ⟨old, kept.trans found, held⟩
    · cases held

/-! ### All or nothing -/

/-- An answer goes with a change that was made as a whole, or with one that failed as a whole. -/
def AllOrNothing {ε : Type} (store : Store) (disk : Disk) (values : Table)
    (outcome : Outcome (Except ε (List String))) : Prop :=
  match outcome.result with
  | .ok names => Changed store disk values names outcome.store outcome.disk
  | .error _ => Untouched store disk outcome.store outcome.disk

/-- **An update is made as a whole or not at all.** -/
theorem update_atomic (store : Store) (disk : Disk) (ordered : values.Ordered) :
    AllOrNothing store disk values (store.update disk values) := by
  have tells := tells_merge ordered store.table
  have merged := get?_merge_of_get? ordered store.table
  rcases update_cases store disk values with
    ⟨same, update⟩ | ⟨cause, changed, failed, update⟩ | ⟨differs, changed, done, update⟩
  · rw [merge_of_silent same] at merged tells
    rw [update]
    exact ⟨fun _ _ => rfl, fun name => (merged name).2, same ▸ tells, fun _ => ⟨rfl, rfl⟩,
      absurd rfl, absurd rfl, absurd rfl⟩
  · rw [update]
    exact untouched_of_saveTable failed
  · rw [update]
    refine ⟨fun name => (merged name).1, fun name => (merged name).2, tells,
      fun silent => absurd silent differs, fun _ => rfl, fun _ => rfl, fun _ path file sound => ?_⟩
    rw [saveTable_of_file file] at done
    exact (save_done sound done).1

/-! ### Posted bodies -/

/-- A body that is not one object, or has a value that is neither a text nor a number nor a
boolean. -/
def Unfit (body : List UInt8) : Prop :=
  (∃ fault, object body = .error fault) ∨
    ∃ values, object body = .ok values ∧ ∃ member ∈ values, member.2.isScalar = false

theorem refused_of_unfit {body : List UInt8} (unfit : Unfit body) :
    ∃ refusal, Api.readBody body = .error refusal := by
  cases read : Api.readBody body with
  | error refusal => exact ⟨refusal, rfl⟩
  | ok values =>
    obtain ⟨parsed, scalar⟩ := Api.readBody_eq_ok_iff.mp read
    rcases unfit with ⟨fault, failed⟩ | ⟨others, same, member, given, odd⟩
    · exact absurd (parsed.symm.trans failed) nofun
    · obtain rfl := Except.ok.inj (parsed.symm.trans same)
      exact absurd ((scalar member given).symm.trans odd) nofun

theorem applyBody_atomic (store : Store) (disk : Disk) {body : List UInt8}
    (read : Api.readBody body = .ok values) :
    AllOrNothing store disk values (Api.applyBody store disk body) := by
  have atomic := update_atomic store disk (Api.ordered_of_readBody read)
  rw [Api.applyBody_read store disk read]
  unfold AllOrNothing at atomic ⊢
  cases result : (store.update disk values).result with
  | ok names =>
    rw [result] at atomic
    exact atomic
  | error cause =>
    rw [result] at atomic
    exact atomic

theorem applyBody_untouched {store : Store} {disk : Disk} {body : List UInt8}
    {refusal : Api.Refusal} (failed : (Api.applyBody store disk body).result = .error refusal) :
    (Api.applyBody store disk body).store = store := by
  cases read : Api.readBody body with
  | error other => rw [Api.applyBody_refused store disk read]
  | ok values =>
    have atomic := applyBody_atomic store disk read
    unfold AllOrNothing at atomic
    rw [failed] at atomic
    exact atomic.same

/-- **Settings are changed as a whole or not at all**, by an update, by setting one value and by a
posted body. A body that is not one object of texts, numbers and booleans is refused as a whole, and
nothing is written. Over HTTP a change that fails is seen in the status only as the last error. -/
theorem settings_atomic (store : Store) (disk : Disk) :
    (∀ values : Table, values.Ordered →
      AllOrNothing store disk values (store.update disk values)) ∧
    (∀ name value, AllOrNothing store disk [(name, value)] (store.set disk name value)) ∧
    (∀ body values, object body = .ok values → (∀ member ∈ values, member.2.isScalar = true) →
      AllOrNothing store disk values (Api.applyBody store disk body)) ∧
    (∀ body, Unfit body →
      ∃ refusal, Api.applyBody store disk body = ⟨.error refusal, store, disk⟩) ∧
    (∀ status body refusal, (Api.applyBody store disk body).result = .error refusal →
      let reply := Api.respond status store disk "POST" "/api/settings" body
      reply.status = { status with lastSettingsError := some refusal.message } ∧
        reply.store = store ∧ reply.disk = (Api.applyBody store disk body).disk) := by
  refine ⟨fun values ordered => update_atomic store disk ordered, fun name value => ?_,
    fun body values parsed scalar => ?_, fun body unfit => ?_, fun status body refusal failed => ?_⟩
  · exact update_atomic store disk (Fields.ordered_single name value)
  · exact applyBody_atomic store disk (Api.readBody_eq_ok_iff.mpr ⟨parsed, scalar⟩)
  · obtain ⟨refusal, refused⟩ := refused_of_unfit unfit
    exact ⟨refusal, Api.applyBody_refused store disk refused⟩
  · rw [Api.respond_failed store disk status failed]
    exact ⟨rfl, applyBody_untouched failed, rfl⟩

/-- The storage is full: of two new values none is set, and only the draft is written. -/
theorem update_on_full_storage :
    let path : Path := ⟨["settings.json"]⟩
    let store : Store := { path := some path, table := [("left", .bool true)] }
    let disk : Disk := { refusals := [((.rename, path), ⟨28⟩)] }
    let values : Table := [("left", .bool false), ("right", .bool true)]
    let outcome := store.update disk values
    outcome.result.toOption = none ∧ outcome.store = store ∧
      outcome.disk.read (draft path) ≠ disk.read (draft path) ∧
        Disk.Grown (draft path).last disk outcome.disk := by
  intro path store disk values outcome
  have failed : outcome.result.toOption = none := by decide +kernel
  have ordered : values.Ordered := by
    refine List.pairwise_cons.mpr ⟨fun member given => ?_, Fields.ordered_single _ _⟩
    obtain rfl := List.mem_singleton.mp given
    decide
  have atomic : AllOrNothing store disk values outcome := (settings_atomic store disk).1 _ ordered
  unfold AllOrNothing at atomic
  cases result : outcome.result with
  | ok names => exact absurd failed (by rw [result]; exact nofun)
  | error cause =>
    rw [result] at atomic
    exact ⟨rfl, atomic.same, by decide +kernel, atomic.files path rfl⟩

end TouchDispatch.Settings
