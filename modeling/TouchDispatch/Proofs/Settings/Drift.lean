/-
**What the file gives back of the numbers that are posted.**

A table is written with the shortest digits of its floating-point numbers, and a reader does not
make the same number of all of them. Nothing else is lost.

* `mem_difference_reread`: **a table differs from what is read of its text just where a number is
  not read back**;
* `Backed`: a store over a file, with a table of values that can be read;
* `backed_run`: a store stays so, whatever is done to it with such values;
* `ReadBack`: what a look at the file comes to that the daemon itself has written;
* `posted_read_back`: **after every accepted body a look finds the values changed that are not read
  back, and no others.** So it finds nothing if all floating-point numbers are read back, as plain
  ones are, and a store that is opened over the file then begins with the same table.
-/

import TouchDispatch.Proofs.Settings.Accord
import TouchDispatch.Proofs.Settings.Atomic
import TouchDispatch.Proofs.Settings.Convergence

namespace TouchDispatch.Settings

open TouchDispatch.Json TouchDispatch.Number

variable {disk : Disk} {path : Path} {table values : Table} {store : Store} {name : String}

/-! ### Tables -/

/-- **A table differs from what is read of its text just where a number is not read back.** -/
theorem mem_difference_reread (ordered : table.Ordered) :
    name ∈ difference table (rereadMembers table) ↔
      ∃ value, table.get? name = some value ∧ ¬value.Steady := by
  have after : Fields.Ordered (rereadMembers table) :=
    (Fields.ordered_congr (names_rereadMembers table)).mpr ordered
  rw [(tells_difference ordered after).mem_iff]
  cases found : table.get? name with
  | none =>
    have gone : Fields.get? (rereadMembers table) name = none := by
      rw [get?_rereadMembers, found]
      rfl
    exact iff_of_false (not_not.mpr (Or.inl (found.trans gone.symm))) nofun
  | some value =>
    have set : Fields.get? (rereadMembers table) name = some value.reread := by
      rw [get?_rereadMembers, found]
      rfl
    have held : holds table name value.reread = value.same value.reread := by
      unfold holds
      rw [found]
    rw [← holds_iff_sameAt set, held, value.same_reread_iff]
    simp

theorem steady_iff : (∀ member ∈ table, member.2.Steady) ↔
    ∀ double ∈ memberDoubles table, layout.Steady double := by
  constructor
  · intro steady double inside
    obtain ⟨member, found, here⟩ := mem_memberDoubles.mp inside
    exact steady member found double here
  · exact fun steady member found double here =>
      steady double (mem_memberDoubles.mpr ⟨member, found, here⟩)

/-- A table that does not differ from what is read of its text is read back. -/
theorem reread_of_difference (ordered : table.Ordered)
    (none : difference table (rereadMembers table) = []) : rereadMembers table = table := by
  refine rereadMembers_of_steady table (steady_iff.mp fun member found => ?_)
  by_contra drifts
  have named := (mem_difference_reread ordered).mpr ⟨_, ordered.get?_of_mem found, drifts⟩
  rw [none] at named
  exact List.not_mem_nil named

theorem given_members {member : String × Value} (given : GivenMembers (depthLimit - 1) values)
    (found : member ∈ values) : member.2.Given (depthLimit - 1) :=
  ⟨legibleMembers_iff.mp given.legible member found, fun double inside =>
    given.finite double (mem_memberDoubles.mpr ⟨member, found, inside⟩)⟩

theorem given_merge (given : GivenMembers (depthLimit - 1) table)
    (fit : ∀ member ∈ values, member.2.Given (depthLimit - 1)) :
    GivenMembers (depthLimit - 1) (merge table values).1 :=
  merge_induction given fun member found _ before => before.insert member.1 (fit member found)

/-! ### Stores over a file -/

/-- A store over a file, with a table of values that can be read. -/
structure Backed (path : Path) (store : Store) (disk : Disk) : Prop where
  file : store.path = some path
  given : GivenMembers (depthLimit - 1) store.table
  sound : disk.Sound

/-- A deed with values that can be read. Others may change the files in any way. -/
def Deed.Fit : Deed → Prop
  | set _ value => value.Given (depthLimit - 1)
  | update values => ∀ member ∈ values, member.2.Given (depthLimit - 1)
  | post _ | reload | persist => True
  | disturb disk => disk.Sound

theorem sound_save (sound : disk.Sound) (table : Table) : (save disk path table).2.Sound := by
  cases saved : save disk path table with
  | mk outcome changed =>
    cases outcome with
    | none => exact (save_done sound saved).2
    | some cause => exact (save_failed saved).sound sound

theorem sound_load (sound : disk.Sound) : (load disk path).2.Sound := by
  rcases load_cases disk path with loaded | ⟨_, loaded⟩
  · rw [loaded]
    exact sound
  · rw [loaded]
    exact sound_save sound []

theorem backed_ofFile (sound : disk.Sound) :
    Backed path (Store.ofFile disk path).1 (Store.ofFile disk path).2 := by
  refine ⟨rfl, ?_, sound_load sound⟩
  show GivenMembers _ (load disk path).1
  rw [load_fst]
  exact given_held disk path

section Deeds

variable (backed : Backed path store disk)
include backed

theorem backed_update (fit : ∀ member ∈ values, member.2.Given (depthLimit - 1)) :
    Backed path (store.update disk values).store (store.update disk values).disk := by
  rcases update_cases store disk values with
    ⟨_, updated⟩ | ⟨_, _, failed, updated⟩ | ⟨_, _, done, updated⟩
  · rw [updated]
    exact backed
  · rw [saveTable_of_file backed.file] at failed
    rw [updated]
    exact ⟨backed.file, backed.given, (save_failed failed).sound backed.sound⟩
  · rw [saveTable_of_file backed.file] at done
    rw [updated]
    exact ⟨backed.file, given_merge backed.given fit, (save_done backed.sound done).2⟩

theorem backed_apply {deed : Deed} (fit : deed.Fit) :
    Backed path (deed.apply store disk).1 (deed.apply store disk).2 := by
  cases deed with
  | set name value =>
    exact backed_update backed fun _ found => List.mem_singleton.mp found ▸ fit
  | update values => exact backed_update backed fit
  | post body =>
    show Backed path (Api.applyBody store disk body).store (Api.applyBody store disk body).disk
    cases read : Api.readBody body with
    | error refusal =>
      rw [Api.applyBody_refused store disk read]
      exact backed
    | ok values =>
      rw [Api.applyBody_read store disk read]
      exact backed_update backed fun _ found =>
        given_members (given_object (Api.readBody_eq_ok_iff.mp read).1) found
  | reload =>
    show Backed path (store.reload disk).store (store.reload disk).disk
    rcases reload_cases disk backed.file with ⟨_, reloaded⟩ | ⟨_, reloaded⟩
    · rw [reloaded]
      exact ⟨backed.file, backed.given, sound_load backed.sound⟩
    · rw [reloaded]
      exact ⟨backed.file, given_held disk path, sound_load backed.sound⟩
  | persist =>
    refine ⟨backed.file, backed.given, ?_⟩
    show (store.saveTable disk store.table).2.Sound
    rw [saveTable_of_file backed.file]
    exact sound_save backed.sound store.table
  | disturb other => exact ⟨backed.file, backed.given, fit⟩

end Deeds

/-- **A store over a file stays one**, whatever is done to it with values that can be read. -/
theorem backed_run {deeds : List Deed} (backed : Backed path store disk)
    (fit : ∀ deed ∈ deeds, deed.Fit) :
    Backed path (Deed.run (store, disk) deeds).1 (Deed.run (store, disk) deeds).2 := by
  induction deeds generalizing store disk with
  | nil => exact backed
  | cons deed rest ih =>
    obtain ⟨here, later⟩ := List.forall_mem_cons.mp fit
    exact ih (backed_apply backed here) later

/-! ### Looking at what was written -/

/-- What a look at the file comes to that holds the text of the table: the values that are not read
back are taken over as they are read, and announced. Otherwise nothing happens. -/
structure ReadBack (path : Path) (store : Store) (disk : Disk) (look : Poll) : Prop where
  names : ∀ name, name ∈ look.names ↔
    ∃ value, store.table.get? name = some value ∧ ¬value.Steady
  table : look.store.table = rereadMembers store.table
  revision : look.store.revision = store.revision + (newsOf store look.names).length
  inboxes : look.store.inboxes = store.inboxes.map (Option.map (· ++ newsOf store look.names))
  silent : look.names = [] → look.store = store
  complaint : look.complaint = none
  kept : look.disk = disk
  reopened : (Store.ofFile disk path).1.table = rereadMembers store.table

/-- **A look at the text of the table changes the values that are not read back.** -/
theorem readBack_of_written (backed : Backed path store disk)
    (written : disk.Written path (content store.table)) {watch : Watch}
    (unseen : watch.seen ≠ disk.modified? path) :
    ReadBack path store disk (watch.poll store disk) := by
  have reads := readTable_reread backed.given
  have loaded := load_of_table written.read reads
  have same : held disk path = rereadMembers store.table := by
    rw [← load_fst, loaded]
  have exactly : ∀ name, name ∈ difference store.table (held disk path) ↔
      ∃ value, store.table.get? name = some value ∧ ¬value.Steady := by
    rw [same]
    exact fun _ => mem_difference_reread backed.given.ordered
  obtain ⟨time, modified⟩ := written.modified
  obtain ⟨revision, inboxes⟩ := reload_announces disk backed.file
  have left : (load disk path).2 = disk := congrArg Prod.snd loaded
  rw [poll_of_unseen backed.file modified (modified ▸ unseen)]
  rcases reload_cases disk backed.file with ⟨none, reloaded⟩ | ⟨some, reloaded⟩
  · rw [none] at exactly
    rw [same] at none
    rw [reloaded] at revision inboxes ⊢
    exact ⟨exactly, (reread_of_difference backed.given.ordered none).symm, revision, inboxes,
      fun _ => rfl, rfl, left, congrArg Prod.fst loaded⟩
  · rw [reloaded] at revision inboxes ⊢
    exact ⟨exactly, same, revision, inboxes, fun silent => absurd silent some, rfl, left,
      congrArg Prod.fst loaded⟩

/-- If all numbers are read back, a look finds nothing, and the file comes to the same table. -/
theorem ReadBack.quiet {look : Poll} (back : ReadBack path store disk look)
    (steady : ∀ member ∈ store.table, member.2.Steady) :
    look.names = [] ∧ look.store = store ∧ (Store.ofFile disk path).1.table = store.table := by
  have none : look.names = [] := by
    refine List.eq_nil_iff_forall_not_mem.mpr fun name named => ?_
    obtain ⟨value, found, drifts⟩ := (back.names name).mp named
    exact drifts (steady (name, value) (mem_of_get? found))
  exact ⟨none, back.silent none,
    back.reopened.trans (rereadMembers_of_steady _ (steady_iff.mp steady))⟩

/-! ### Posted bodies -/

/-- A body that is accepted and changes something has the text of the table written. -/
theorem written_of_posted (backed : Backed path store disk) {body : List UInt8}
    {names : List String} (posted : (Api.applyBody store disk body).result = .ok names)
    (some : names ≠ []) :
    (Api.applyBody store disk body).disk.Written path
      (content (Api.applyBody store disk body).store.table) := by
  cases read : Api.readBody body with
  | error refusal =>
    rw [Api.applyBody_refused store disk read] at posted
    cases posted
  | ok values =>
    rw [Api.applyBody_read store disk read] at posted ⊢
    rcases update_cases store disk values with
      ⟨_, updated⟩ | ⟨_, _, _, updated⟩ | ⟨_, _, done, updated⟩
    · rw [updated] at posted
      cases posted
      exact absurd rfl some
    · rw [updated] at posted
      cases posted
    · rw [saveTable_of_file backed.file] at done
      rw [updated]
      exact (save_written backed.sound done).1

/-- **The file gives back all that is posted but some of the floating-point numbers.** Whatever was
done to a store over a file before: after a body that was accepted and changed something, the next
look at the file takes over and announces just the values with a number that is not read back from
its shortest digits. Without such numbers it finds nothing and tells nobody, and a store that is
opened over the file begins with the same table. Texts, booleans and whole numbers are always read
back, and so are plain floating-point numbers. -/
theorem posted_read_back (disk : Disk) (path : Path) (deeds : List Deed) (body : List UInt8)
    (watch : Watch) (names : List String) (sound : disk.Sound) (fit : ∀ deed ∈ deeds, deed.Fit) :
    let state := Deed.run (Store.ofFile disk path) deeds
    let after := Api.applyBody state.1 state.2 body
    let look := watch.poll after.store after.disk
    after.result = .ok names → names ≠ [] → watch.seen ≠ after.disk.modified? path →
      ReadBack path after.store after.disk look ∧
      ((∀ member ∈ after.store.table, member.2.Steady) →
        look.names = [] ∧ look.store = after.store ∧
          (Store.ofFile after.disk path).1.table = after.store.table) ∧
      ∀ member ∈ after.store.table,
        (∀ double ∈ member.2.doubles, Layout.Plain double) → member.2.Steady := by
  intro state after look posted some unseen
  have before : Backed path state.1 state.2 := backed_run (backed_ofFile sound) fit
  have backed : Backed path after.store after.disk :=
    backed_apply before (show (Deed.post body).Fit from trivial)
  have back : ReadBack path after.store after.disk look :=
    readBack_of_written backed (written_of_posted before posted some) unseen
  refine ⟨back, back.quiet, fun member found plain double inside => ?_⟩
  have finite := backed.given.finite double (mem_memberDoubles.mpr ⟨member, found, inside⟩)
  exact Layout.steady_of_plain (show (15 : ℤ) ≤ 15 from le_rfl) finite (plain double inside)

/-- Plain numbers, the greatest whole number, minus zero and a control character are posted to a
store over a new file. -/
theorem plain_values_read_back :
    let path : Path := ⟨["settings.json"]⟩
    let opened := Store.ofFile {} path
    let watch := Watch.ofStore opened.1 opened.2
    let body := Text.Utf8.octets
      "\x7b\"a\":-0.1,\"b\":2.5e20,\"c\":18446744073709551615,\"d\":-0,\"e\":\"\\u0007\"\x7d"
    let after := Api.applyBody opened.1 opened.2 body
    let look := watch.poll after.store after.disk
    after.result.toOption = some ["a", "b", "c", "d", "e"] ∧ look.names = [] ∧
      look.store = after.store ∧ (Store.ofFile after.disk path).1.table = after.store.table := by
  intro path opened watch body after look
  have worked : after.result.toOption = some ["a", "b", "c", "d", "e"] := by decide +kernel
  refine ⟨worked, ?_⟩
  cases result : after.result with
  | error refusal =>
    rw [result] at worked
    cases worked
  | ok names =>
    rw [result] at worked
    obtain rfl := Option.some.inj worked
    obtain ⟨_, quiet, plain⟩ := posted_read_back {} path [] body watch ["a", "b", "c", "d", "e"]
      Disk.sound_nil (List.forall_mem_nil _) result (List.cons_ne_nil _ _) (by decide +kernel)
    have numbers : ∀ member ∈ after.store.table, ∀ double ∈ member.2.doubles,
        Layout.Plain double := by
      decide +kernel
    exact quiet fun member found => plain member found (numbers member found)

/-- A posted number of fourteen digits with sixteen places before its point is not read back. -/
theorem number_drifts_on_disk :
    let path : Path := ⟨["settings.json"]⟩
    let opened := Store.ofFile {} path
    let watch := Watch.ofStore opened.1 opened.2
    let body := Text.Utf8.octets "\x7b\"a\":8.0000000000001e15\x7d"
    let after := Api.applyBody opened.1 opened.2 body
    let look := watch.poll after.store after.disk
    after.result.toOption = some ["a"] ∧ look.names = ["a"] ∧
      look.store.revision = after.store.revision + 1 ∧
      after.store.table.compact = "\x7b\"a\":8000000000000100.0\x7d" ∧
      (Store.ofFile after.disk path).1.table.compact = "\x7b\"a\":8000000000000099.0\x7d" := by
  intro path opened watch after look
  refine ⟨?_, ?_, ?_, ?_, ?_⟩ <;> decide +kernel

end TouchDispatch.Settings
