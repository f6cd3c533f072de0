/-
**Memory and file never drift apart.**

* `Deed.Own`: what the daemon itself does to the settings, while others change at most what the
  storage refuses;
* `Accord`: the settings file comes to the table in memory, and the table is one that is read back
  as it was written;
* `accord_apply`: every deed of its own keeps the accord, whether the storage refuses it or not;
* `memory_matches_file`: **so it holds after every run of such deeds.** A reload finds nothing new,
  and a store that is opened anew over the file begins with the same table.

The table is written before it is taken over, so that there is no state in which only one of the two
has changed. Floating-point numbers are left out: not all of them are read back from their texts,
which is another matter.
-/

import TouchDispatch.Proofs.Settings.Body
import TouchDispatch.Proofs.Settings.Looking
import TouchDispatch.Proofs.Settings.Naming

namespace TouchDispatch.Settings

open TouchDispatch.Json

variable {disk : Disk} {path : Path} {table values : Table} {store : Store}

/-! ### Tables and values that can be stored -/

/-- A value that is read back as it was written. -/
def Storable (value : Value) : Prop :=
  value.Legible (depthLimit - 1) ∧ value.Exact

/-- Texts, booleans and whole numbers of at most 64 bits can be stored. -/
theorem storable_of_scalar {value : Value} (scalar : value.isScalar = true)
    (whole : ∀ number, value = .number number → ∃ integer, number = .whole integer ∧
      Fits integer) : Storable value := by
  cases value with
  | bool value => exact ⟨trivial, trivial⟩
  | text text => exact ⟨trivial, trivial⟩
  | number number =>
    obtain ⟨integer, rfl, fits⟩ := whole number rfl
    exact ⟨fits, trivial⟩
  | null | array items | object members => cases scalar

theorem Faithful.insert (faithful : Faithful table) (name : String) {value : Value}
    (storable : Storable value) : Faithful (table.insert name value) := by
  refine ⟨faithful.ordered.insert name value, faithful.legible.insert storable.1, ?_⟩
  refine exactMembers_iff.mpr fun member found => ?_
  rcases Fields.mem_insert found with rfl | found
  · exact storable.2
  · exact exactMembers_iff.mp faithful.exact member found

theorem Faithful.merge (faithful : Faithful table)
    (storable : ∀ member ∈ values, Storable member.2) : Faithful (merge table values).1 :=
  merge_induction faithful fun member given _ before =>
    before.insert member.1 (storable member given)

theorem storable_of_object {body : List UInt8} (read : object body = .ok values)
    (exact : ExactMembers values) : ∀ member ∈ values, Storable member.2 := fun member given =>
  ⟨legibleMembers_iff.mp (legible_object read).2 member given,
    exactMembers_iff.mp exact member given⟩

/-! ### The accord -/

/-- The settings file comes to the table in memory. -/
structure Accord (path : Path) (store : Store) (disk : Disk) : Prop where
  file : store.path = some path
  held : held disk path = store.table
  faithful : Faithful store.table
  sound : disk.Sound

/-- **Loading leaves what the file comes to**, even where it writes the file. -/
theorem held_load (sound : disk.Sound) (spares : Spares disk path) :
    held (load disk path).2 path = held disk path ∧ (load disk path).2.Sound := by
  rcases load_cases disk path with loaded | ⟨empty, loaded⟩
  · rw [loaded]
    exact ⟨rfl, sound⟩
  · rw [loaded]
    obtain ⟨soundAfter, outcome⟩ := save_cases sound spares faithful_nil
    refine ⟨?_, soundAfter⟩
    split at outcome
    · exact outcome.trans empty.symm
    · exact outcome

theorem accord_ofFile (sound : disk.Sound) (spares : Spares disk path)
    (exact : ExactMembers (held disk path)) :
    Accord path (Store.ofFile disk path).1 (Store.ofFile disk path).2 := by
  obtain ⟨same, soundAfter⟩ := held_load sound spares
  obtain ⟨ordered, legible⟩ := held_legible disk path
  have loaded : (Store.ofFile disk path).1.table = held disk path := load_fst disk path
  refine ⟨rfl, same.trans loaded.symm, ?_, soundAfter⟩
  rw [loaded]
  exact ⟨ordered, legible, exact⟩

/-- **A reload finds nothing new.** -/
theorem reload_of_accord (accord : Accord path store disk) :
    store.reload disk = ⟨[], store, (load disk path).2⟩ := by
  have same : difference store.table (held disk path) = [] := by
    rw [accord.held]
    exact difference_self accord.faithful.ordered
  rcases reload_cases disk accord.file with ⟨_, reloaded⟩ | ⟨differs, _⟩
  · exact reloaded
  · exact absurd same differs

section Deeds

variable (accord : Accord path store disk) (spares : Spares disk path)
include accord spares

theorem accord_update (storable : ∀ member ∈ values, Storable member.2) :
    Accord path (store.update disk values).store (store.update disk values).disk := by
  have faithful := accord.faithful.merge storable
  unfold Store.update Store.saveTable
  rw [accord.file]
  split
  next table names merged =>
    rw [merged] at faithful
    obtain ⟨sound, outcome⟩ := save_cases accord.sound spares faithful
    dsimp only
    split
    · exact accord
    · split
      · next failed =>
        rw [failed] at sound outcome
        exact ⟨accord.file, outcome.trans accord.held, accord.faithful, sound⟩
      · next done =>
        rw [done] at sound outcome
        exact ⟨accord.file, outcome, faithful, sound⟩

theorem accord_reload : Accord path (store.reload disk).store (store.reload disk).disk := by
  obtain ⟨same, sound⟩ := held_load accord.sound spares
  rw [reload_of_accord accord]
  exact ⟨accord.file, same.trans accord.held, accord.faithful, sound⟩

theorem accord_persist : Accord path store (store.persist disk).2 := by
  unfold Store.persist Store.saveTable
  rw [accord.file]
  obtain ⟨sound, outcome⟩ := save_cases accord.sound spares accord.faithful
  refine ⟨accord.file, ?_, accord.faithful, sound⟩
  dsimp only
  split at outcome
  · exact outcome
  · exact outcome.trans accord.held

end Deeds

/-! ### Runs -/

/-- What the daemon itself does to the settings, with values that can be stored. Others change at
most what the storage refuses, so the file comes to what it did. -/
def Deed.Own (path : Path) (disk : Disk) : Deed → Prop
  | set _ value => Storable value
  | update values => ∀ member ∈ values, Storable member.2
  | post body => ∀ values, Api.readBody body = .ok values → ExactMembers values
  | reload | persist => True
  | disturb other => other.Sound ∧ held other path = held disk path

/-- Others may change in any way what the storage refuses. -/
theorem Deed.own_refuse (sound : disk.Sound) (refusals : List ((Access × Path) × Errno)) :
    (disturb { disk with refusals }).Own path disk :=
  ⟨sound, held_congr rfl⟩

/-- **Every deed of its own keeps the accord**, whether the storage refuses it or not. -/
theorem accord_apply (accord : Accord path store disk) (spares : Spares disk path) {deed : Deed}
    (own : deed.Own path disk) :
    Accord path (deed.apply store disk).1 (deed.apply store disk).2 := by
  cases deed with
  | set name value =>
    exact accord_update accord spares fun _ given => List.mem_singleton.mp given ▸ own
  | update values => exact accord_update accord spares own
  | post body =>
    show Accord path (Api.applyBody store disk body).store (Api.applyBody store disk body).disk
    cases read : Api.readBody body with
    | error refusal =>
      rw [Api.applyBody_refused store disk read]
      exact accord
    | ok values =>
      rw [Api.applyBody_read store disk read]
      have parsed := (Api.readBody_eq_ok_iff.mp read).1
      exact accord_update accord spares (storable_of_object parsed (own values read))
  | reload => exact accord_reload accord spares
  | persist => exact accord_persist accord spares
  | disturb other => exact ⟨accord.file, own.2.trans accord.held, accord.faithful, own.1⟩

/-- The store and the files after deeds, one after another. -/
def Deed.run (state : Store × Disk) (deeds : List Deed) : Store × Disk :=
  deeds.foldl (fun state deed => deed.apply state.1 state.2) state

/-- A path with a way up does not lead a save that fails to another file. -/
def Straight (path : Path) (disk : Disk) : Prop :=
  ".." ∈ path.parts → Spares disk path

/-- Deeds of its own, one after another. -/
def OwnRun (path : Path) : Store × Disk → List Deed → Prop
  | _, [] => True
  | state, deed :: rest =>
    Straight path state.2 ∧ deed.Own path state.2 ∧ OwnRun path (deed.apply state.1 state.2) rest

theorem Straight.spares (straight : Straight path disk) (sound : disk.Sound) :
    Spares disk path := by
  by_cases up : ".." ∈ path.parts
  · exact straight up
  · exact spares_plain sound up

theorem accord_run {deeds : List Deed} (accord : Accord path store disk)
    (own : OwnRun path (store, disk) deeds) :
    Accord path (Deed.run (store, disk) deeds).1 (Deed.run (store, disk) deeds).2 := by
  induction deeds generalizing store disk with
  | nil => exact accord
  | cons deed rest ih =>
    obtain ⟨straight, here, later⟩ := own
    exact ih (accord_apply accord (straight.spares accord.sound) here) later

/-- **Memory and file never drift apart through what the daemon itself does.** After every run of
such deeds the file comes to the table in memory. So a reload finds nothing new, changes nothing and
tells nobody, and a store that is opened anew over the file begins with the same table. -/
theorem memory_matches_file (disk : Disk) (path : Path) (deeds : List Deed) (sound : disk.Sound)
    (exact : ExactMembers (held disk path)) (straight : Straight path disk)
    (own : OwnRun path (Store.ofFile disk path) deeds) :
    let state := Deed.run (Store.ofFile disk path) deeds
    held state.2 path = state.1.table ∧
      (state.1.reload state.2).result = [] ∧ (state.1.reload state.2).store = state.1 ∧
        (Store.ofFile state.2 path).1.table = state.1.table := by
  intro state
  have accord : Accord path state.1 state.2 :=
    accord_run (accord_ofFile sound (straight.spares sound) exact) own
  rw [reload_of_accord accord]
  exact ⟨accord.held, rfl, rfl, (load_fst state.2 path).trans accord.held⟩

/-- A file is made and written, and then the storage refuses to replace it. -/
theorem memory_matches_refused_file :
    let path : Path := ⟨["settings.json"]⟩
    let opened := Store.ofFile {} path
    let on : Deed := .set dozeName (.text "true:false:true")
    let first := on.apply opened.1 opened.2
    let full : Disk := { first.2 with refusals := [((.rename, path), ⟨28⟩)] }
    let off : Deed := .set dozeName (.text "false:false:false")
    let state := Deed.run opened [on, .disturb full, off, .reload]
    (first.1.set full dozeName (.text "false:false:false")).result.toOption = none ∧
      held state.2 path = state.1.table ∧ word state.1.table dozeName "" = "true:false:true" := by
  intro path opened on first full off state
  have plain : ∀ disk, Straight path disk := fun disk up => absurd up (by decide)
  have nothing : held {} path = [] := List.isEmpty_iff.mp (by decide +kernel)
  have exact : ExactMembers (held {} path) := nothing ▸ trivial
  have storable : ∀ text, Storable (.text text) := fun text => storable_of_scalar rfl nofun
  have begun := accord_ofFile Disk.sound_nil ((plain {}).spares Disk.sound_nil) exact
  have accord : Accord path first.1 first.2 :=
    accord_apply begun ((plain opened.2).spares begun.sound) (storable _)
  have own : OwnRun path opened [on, .disturb full, off, .reload] :=
    ⟨plain _, storable _, plain _, Deed.own_refuse accord.sound _, plain _, storable _, plain _,
      trivial, trivial⟩
  have matching := memory_matches_file {} path _ Disk.sound_nil exact (plain {}) own
  exact ⟨by decide +kernel, matching.1, by decide +kernel⟩

end TouchDispatch.Settings
