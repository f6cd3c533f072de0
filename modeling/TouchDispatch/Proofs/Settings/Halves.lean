/-
**The two halves of a change.**

A change is committed first and announced then, and neither waits for what others have committed but
not yet announced:

* `Deed.commit`: a deed up to its commit, with the change that is left to announce, if any;
* `apply_eq_commit`: **a deed is its commit, followed at once by the announcement**;
* `commit_cases`: a commit brings the next revision, or it leaves the store alone;
* `unread_notify`, `unread_subscribe`, `unread_unsubscribe`, `unread_handOut_first`: what a listener
  has yet to read when a change is announced, when somebody comes or leaves, and when the oldest
  change is read.
-/

import TouchDispatch.Proofs.Settings.Body
import TouchDispatch.Proofs.Settings.Copy

namespace TouchDispatch.Settings

open TouchDispatch.Json

variable {store : Store} {disk : Disk} {values : Table} {change : Change} {listener other : Nat}

/-! ### Deeds up to their commit -/

namespace Store

/-- An update up to its commit. -/
def commitUpdate (store : Store) (disk : Disk) (values : Table) : Outcome (Option Change) :=
  let (table, names) := merge store.table values
  if names = [] then ⟨none, store, disk⟩
  else
    match store.saveTable disk table with
    | (some _, disk) => ⟨none, store, disk⟩
    | (none, disk) =>
      let (change, store) := store.commit table names
      ⟨some change, store, disk⟩

/-- A reload up to its commit. -/
def commitReload (store : Store) (disk : Disk) : Outcome (Option Change) :=
  match store.path with
  | none => ⟨none, store, disk⟩
  | some path =>
    let (table, disk) := load disk path
    let names := difference store.table table
    if names = [] then ⟨none, store, disk⟩
    else
      let (change, store) := store.commit table names
      ⟨some change, store, disk⟩

end Store

/-- A deed up to its commit. -/
def Deed.commit (store : Store) (disk : Disk) : Deed → Outcome (Option Change)
  | set name value => store.commitUpdate disk [(name, value)]
  | update values => store.commitUpdate disk values
  | post body =>
    match Api.readBody body with
    | .error _ => ⟨none, store, disk⟩
    | .ok values => store.commitUpdate disk values
  | reload => store.commitReload disk
  | persist => ⟨none, store, (store.persist disk).2⟩
  | disturb disk => ⟨none, store, disk⟩

/-- The store and the files after a commit whose change, if any, is announced. -/
def Outcome.announced (outcome : Outcome (Option Change)) : Store × Disk :=
  match outcome.result with
  | some change => (outcome.store.notify change, outcome.disk)
  | none => (outcome.store, outcome.disk)

theorem update_eq_commit (store : Store) (disk : Disk) (values : Table) :
    ((store.update disk values).store, (store.update disk values).disk) =
      (store.commitUpdate disk values).announced := by
  unfold Store.update Store.commitUpdate
  dsimp only
  split
  · rfl
  · cases store.saveTable disk (merge store.table values).1 with
    | mk outcome disk =>
      cases outcome with
      | none => rfl
      | some cause => rfl

theorem reload_eq_commit (store : Store) (disk : Disk) :
    ((store.reload disk).store, (store.reload disk).disk) =
      (store.commitReload disk).announced := by
  unfold Store.reload Store.commitReload
  cases store.path with
  | none => rfl
  | some path =>
    dsimp only
    split
    · rfl
    · rfl

/-- **A deed is its commit, followed at once by the announcement.** -/
theorem apply_eq_commit (store : Store) (disk : Disk) (deed : Deed) :
    deed.apply store disk = (deed.commit store disk).announced := by
  cases deed with
  | set name value => exact update_eq_commit store disk _
  | update values => exact update_eq_commit store disk values
  | post body =>
    unfold Deed.apply Deed.commit
    dsimp only
    cases read : Api.readBody body with
    | error refusal =>
      rw [Api.applyBody_refused store disk read]
      rfl
    | ok values =>
      rw [Api.applyBody_read store disk read]
      exact update_eq_commit store disk values
  | reload => exact reload_eq_commit store disk
  | persist => rfl
  | disturb other => rfl

/-- What a commit can come to: the store is left alone, or it has another table and the next
revision, and this change is left to announce. -/
def Committed (store : Store) (outcome : Outcome (Option Change)) : Prop :=
  outcome.result = none ∧ outcome.store = store ∨
    ∃ names table, outcome.result = some ⟨names, store.revision + 1⟩ ∧
      outcome.store = { store with table, revision := store.revision + 1 }

theorem committed_update (store : Store) (disk : Disk) (values : Table) :
    Committed store (store.commitUpdate disk values) := by
  unfold Store.commitUpdate
  dsimp only
  split
  · exact Or.inl ⟨rfl, rfl⟩
  · split
    · exact Or.inl ⟨rfl, rfl⟩
    · exact Or.inr ⟨_, _, rfl, rfl⟩

/-- **A commit brings the next revision, or it leaves the store alone.** -/
theorem commit_cases (store : Store) (disk : Disk) (deed : Deed) :
    Committed store (deed.commit store disk) := by
  cases deed with
  | set name value => exact committed_update store disk _
  | update values => exact committed_update store disk values
  | post body =>
    unfold Deed.commit
    dsimp only
    split
    · exact Or.inl ⟨rfl, rfl⟩
    · exact committed_update store disk _
  | reload =>
    unfold Deed.commit Store.commitReload
    dsimp only
    split
    · exact Or.inl ⟨rfl, rfl⟩
    · split
      · exact Or.inl ⟨rfl, rfl⟩
      · exact Or.inr ⟨_, _, rfl, rfl⟩
  | persist => exact Or.inl ⟨rfl, rfl⟩
  | disturb other => exact Or.inl ⟨rfl, rfl⟩

/-! ### What is unread afterwards -/

theorem inbox_notify (store : Store) (change : Change) (listener : Nat) :
    (store.notify change).inboxes[listener]?.join =
      store.inboxes[listener]?.join.map (· ++ [change]) := by
  unfold Store.notify
  rw [List.getElem?_map]
  rcases store.inboxes[listener]? with _ | _ | changes
  · rfl
  · rfl
  · rfl

theorem hears_notify : (store.notify change).Hears listener ↔ store.Hears listener := by
  unfold Store.Hears
  rw [inbox_notify, Option.isSome_map]

/-- **A change that is announced is the newest that a listener has to read.** -/
theorem unread_notify (hears : store.Hears listener) :
    (store.notify change).unread listener = store.unread listener ++ [change] := by
  unfold Store.Hears at hears
  obtain ⟨changes, inbox⟩ := Option.isSome_iff_exists.mp hears
  unfold Store.unread
  rw [inbox_notify, inbox]
  rfl

/-- Who comes finds nothing to read, and the others find what they had. -/
theorem unread_subscribe (store : Store) (listener : Nat) :
    store.subscribe.2.unread listener = store.unread listener := by
  by_cases there : listener < store.inboxes.length
  · unfold Store.unread
    rw [inbox_subscribe there]
  · have beyond : store.inboxes.length ≤ listener := Nat.le_of_not_lt there
    unfold Store.unread Store.subscribe
    dsimp only
    rw [List.getElem?_append_right beyond, List.getElem?_eq_none beyond]
    cases listener - store.inboxes.length with
    | zero => rfl
    | succ later => rfl

theorem inbox_unsubscribe (store : Store) (other listener : Nat) :
    (store.unsubscribe other).inboxes[listener]?.join =
      if other = listener then none else store.inboxes[listener]?.join := by
  unfold Store.unsubscribe
  rw [List.getElem?_set]
  split
  · split
    · rfl
    · rfl
  · rfl

/-- Who leaves has nothing to read any more. -/
theorem unread_unsubscribe (store : Store) (other listener : Nat) :
    (store.unsubscribe other).unread listener =
      if other = listener then [] else store.unread listener := by
  unfold Store.unread
  rw [inbox_unsubscribe]
  split
  · rfl
  · rfl

theorem hears_unsubscribe :
    (store.unsubscribe other).Hears listener ↔ other ≠ listener ∧ store.Hears listener := by
  unfold Store.Hears
  rw [inbox_unsubscribe]
  split
  · next same => exact iff_of_false Bool.false_ne_true fun both => both.1 same
  · next apart => exact (and_iff_right apart).symm

/-- **Who reads the oldest change has the others to read.** -/
theorem unread_handOut_first (store : Store) (other listener : Nat) :
    (store.handOut other 0).unread listener =
      if other = listener then (store.unread listener).tail else store.unread listener := by
  unfold Store.unread
  rw [inbox_handOut]
  split
  · rcases store.inboxes[listener]?.join with _ | changes
    · rfl
    · exact List.eraseIdx_zero
  · rfl

/-- Nothing is handed out where there is nothing to read. -/
theorem handOut_of_unread (read : store.unread listener = []) (place : Nat) :
    store.handOut listener place = store := by
  have inboxes : store.inboxes.modify listener (Option.map (·.eraseIdx place)) = store.inboxes := by
    refine List.ext_getElem? fun other => ?_
    rw [List.getElem?_modify]
    by_cases same : listener = other
    · simp only [if_pos same]
      subst same
      unfold Store.unread at read
      rcases inbox : store.inboxes[listener]? with _ | _ | changes
      · rfl
      · rfl
      · rw [inbox] at read
        obtain rfl : changes = [] := read
        rfl
    · simp only [if_neg same]
      exact Option.map_id'
  unfold Store.handOut
  rw [inboxes]

end TouchDispatch.Settings
