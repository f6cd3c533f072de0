/-
**What is done to the settings, and what listeners are told of it.**

* `Deed`: the ways in which the settings, or the files that they are kept in, are worked on;
* `SameAt`: two tables hold the same under a name. The two floating-point zeros are the same here,
  as they are for the store;
* `told_apply`: **a deed tells every listener of all names under which it changes the table.** This
  needs nothing of the tables, neither that they are sorted nor that each name occurs once.
-/

import Mathlib.Tactic.ByContra
import TouchDispatch.Api

namespace TouchDispatch.Settings

open TouchDispatch.Json

/-- Something done to the settings, or to the files that they are kept in. -/
inductive Deed where
  /-- Sets one value. -/
  | set (name : String) (value : Value)
  /-- Merges values into the table. -/
  | update (values : Table)
  /-- Merges the values of a posted body into the table. -/
  | post (body : List UInt8)
  | reload
  | persist
  /-- Others change the files, or what the storage refuses. -/
  | disturb (disk : Disk)

/-- The store and the files after a deed. -/
def Deed.apply (store : Store) (disk : Disk) : Deed → Store × Disk
  | set name value =>
    let outcome := store.set disk name value
    (outcome.store, outcome.disk)
  | update values =>
    let outcome := store.update disk values
    (outcome.store, outcome.disk)
  | post body =>
    let outcome := Api.applyBody store disk body
    (outcome.store, outcome.disk)
  | reload =>
    let outcome := store.reload disk
    (outcome.store, outcome.disk)
  | persist => (store, (store.persist disk).2)
  | disturb disk => (store, disk)

/-- The changes that a listener has not read yet; none for a listener that is not there. -/
def Store.unread (store : Store) (listener : Nat) : List Change :=
  store.inboxes[listener]?.join.getD []

/-- Takes the change at a place out of those that a listener has not read yet. -/
def Store.handOut (store : Store) (listener place : Nat) : Store :=
  { store with inboxes := store.inboxes.modify listener (Option.map (·.eraseIdx place)) }

/-- Two tables hold the same under a name. -/
def SameAt (name : String) (old new : Table) : Prop :=
  old.get? name = new.get? name ∨
    ∃ before after, old.get? name = some before ∧ new.get? name = some after ∧
      before.same after = true

theorem SameAt.refl (name : String) (table : Table) : SameAt name table table :=
  Or.inl rfl

/-! ### The names that change -/

theorem get?_insert (table : Table) (name other : String) (value : Value) :
    (table.insert name value).get? other =
      if name = other then some value else table.get? other := by
  induction table with
  | nil => rfl
  | cons member rest ih =>
    obtain ⟨first, old⟩ := member
    unfold Fields.insert
    by_cases same : first = name
    · subst same
      rw [if_pos rfl]
      by_cases found : first = other
      · rw [if_pos found, Fields.get?, if_pos found]
      · rw [if_neg found, Fields.get?, if_neg found, Fields.get?, if_neg found]
    · rw [if_neg same]
      by_cases before : name < first
      · rw [if_pos before, Fields.get?]
      · rw [if_neg before, Fields.get?, Fields.get?, ih]
        by_cases found : first = other
        · rw [if_pos found, if_neg fun equal => same (found.trans equal.symm), if_pos found]
        · rw [if_neg found, if_neg found]

/-- **A merge that leaves a name out keeps what the table holds under it.** -/
theorem get?_merge (table values : Table) (name : String)
    (left : name ∉ (merge table values).2) :
    (merge table values).1.get? name = table.get? name := by
  induction values generalizing table with
  | nil => rfl
  | cons member rest ih =>
    obtain ⟨first, value⟩ := member
    unfold merge at left ⊢
    by_cases held : holds table first value = true
    · rw [if_pos held] at left ⊢
      exact ih table left
    · rw [if_neg held] at left ⊢
      have apart : first ≠ name := fun equal => left (equal ▸ List.mem_cons_self)
      rw [ih _ fun member => left (List.mem_cons_of_mem _ member), get?_insert, if_neg apart]

theorem mem_of_get? {table : Table} {name : String} {value : Value}
    (found : table.get? name = some value) : (name, value) ∈ table := by
  induction table with
  | nil => cases found
  | cons member rest ih =>
    obtain ⟨first, held⟩ := member
    unfold Fields.get? at found
    by_cases same : first = name
    · rw [if_pos same] at found
      obtain rfl := Option.some.inj found
      exact same ▸ List.mem_cons_self
    · rw [if_neg same] at found
      exact List.mem_cons_of_mem _ (ih found)

/-- **A difference that leaves a name out finds the same under it.** -/
theorem sameAt_of_not_mem_difference {old new : Table} {name : String}
    (left : name ∉ difference old new) : SameAt name old new := by
  have notNew : name ∉ Fields.names (new.filter fun member => !holds old member.1 member.2) :=
    fun member => left (List.mem_append_left _ member)
  have notGone : name ∉ Fields.names (old.filter fun member => (new.get? member.1).isNone) :=
    fun member => left (List.mem_append_right _ member)
  cases after : new.get? name with
  | none =>
    cases before : old.get? name with
    | none => exact Or.inl (before.trans after.symm)
    | some value =>
      refine absurd (List.mem_map.mpr ⟨(name, value), ?_, rfl⟩) notGone
      exact List.mem_filter.mpr ⟨mem_of_get? before, by rw [after]; rfl⟩
  | some value =>
    have held : holds old name value = true := by
      by_contra differs
      refine notNew (List.mem_map.mpr ⟨(name, value), ?_, rfl⟩)
      exact List.mem_filter.mpr ⟨mem_of_get? after, by simp [differs]⟩
    unfold holds at held
    split at held
    · next before found => exact Or.inr ⟨before, value, found, after, held⟩
    · cases held

/-! ### What listeners are told -/

/-- Between two states of the store every listener gets the same news, and these touch every name
under which the table no longer holds the same. -/
structure Told (old new : Store) (news : List Change) : Prop where
  inboxes : new.inboxes = old.inboxes.map (Option.map (· ++ news))
  touched : ∀ name, SameAt name old.table new.table ∨ ∃ change ∈ news, change.touches name = true

theorem Told.refl (store : Store) : Told store store [] := by
  refine ⟨?_, fun name => Or.inl (.refl name _)⟩
  have same : (Option.map fun changes : List Change => changes ++ []) = id := by
    funext inbox
    cases inbox <;> simp
  rw [same, List.map_id]

/-- A change is announced under all its names, so it is enough that the other names keep what the
table holds under them. -/
theorem told_announce (store : Store) (table : Table) (names : List String)
    (kept : ∀ name, name ∉ names → SameAt name store.table table) :
    ∃ news, Told store (store.announce table names) news := by
  refine ⟨[⟨names, store.revision + 1⟩], rfl, fun name => ?_⟩
  by_cases named : name ∈ names
  · exact Or.inr ⟨_, List.mem_singleton_self _, List.contains_iff_mem.mpr named⟩
  · exact Or.inl (kept name named)

theorem told_update (store : Store) (disk : Disk) (values : Table) :
    ∃ news, Told store (store.update disk values).store news := by
  unfold Store.update
  split
  next table names merged =>
    have kept : ∀ name, name ∉ names → SameAt name store.table table := by
      intro name left
      have same := get?_merge store.table values name
      rw [merged] at same
      exact Or.inl (same left).symm
    split
    · exact ⟨[], .refl store⟩
    · split
      · exact ⟨[], .refl store⟩
      · exact told_announce store table names kept

theorem reload_of_no_file {store : Store} (disk : Disk) (file : store.path = none) :
    store.reload disk = ⟨[], store, disk⟩ := by
  unfold Store.reload
  rw [file]

/-- **All that a reload can come to**: the table that is loaded is the one in memory, or it is
announced. -/
theorem reload_of_file {store : Store} {path : Path} (disk : Disk)
    (file : store.path = some path) :
    difference store.table (load disk path).1 = [] ∧
        store.reload disk = ⟨[], store, (load disk path).2⟩ ∨
      difference store.table (load disk path).1 ≠ [] ∧
        store.reload disk = ⟨difference store.table (load disk path).1,
          store.announce (load disk path).1 (difference store.table (load disk path).1),
          (load disk path).2⟩ := by
  have reloaded : store.reload disk =
      if difference store.table (load disk path).1 = [] then ⟨[], store, (load disk path).2⟩
      else ⟨difference store.table (load disk path).1,
        store.announce (load disk path).1 (difference store.table (load disk path).1),
        (load disk path).2⟩ := by
    unfold Store.reload
    rw [file]
  rw [reloaded]
  by_cases same : difference store.table (load disk path).1 = []
  · exact Or.inl ⟨same, if_pos same⟩
  · exact Or.inr ⟨same, if_neg same⟩

theorem told_reload (store : Store) (disk : Disk) :
    ∃ news, Told store (store.reload disk).store news := by
  cases file : store.path with
  | none =>
    rw [reload_of_no_file disk file]
    exact ⟨[], .refl store⟩
  | some path =>
    rcases reload_of_file disk file with ⟨_, reloaded⟩ | ⟨_, reloaded⟩
    · rw [reloaded]
      exact ⟨[], .refl store⟩
    · rw [reloaded]
      exact told_announce store _ _ fun name => sameAt_of_not_mem_difference

theorem told_applyBody (store : Store) (disk : Disk) (body : List UInt8) :
    ∃ news, Told store (Api.applyBody store disk body).store news := by
  unfold Api.applyBody
  split
  · exact ⟨[], .refl store⟩
  · exact told_update store disk _

/-- **Whatever is done to the settings, every listener is told of all that changes.** -/
theorem told_apply (store : Store) (disk : Disk) (deed : Deed) :
    ∃ news, Told store (deed.apply store disk).1 news := by
  cases deed with
  | set name value => exact told_update store disk _
  | update values => exact told_update store disk values
  | post body => exact told_applyBody store disk body
  | reload => exact told_reload store disk
  | persist => exact ⟨[], .refl store⟩
  | disturb disk => exact ⟨[], .refl store⟩

end TouchDispatch.Settings
