/-
**A copy of a setting that follows the store.**

Whoever keeps what the store said is told of changes, and may read them late and in any order.

* `Fresh`: a copy is what the store says now, or a change of its name is still unread;
* `Fresh.told`: a deed on the settings leaves a copy fresh, for the deed is announced;
* `Fresh.refresh`: a change that is read leaves a copy fresh, if whoever it touches reads the store
  again.
-/

import TouchDispatch.Proofs.Settings.Deed

namespace TouchDispatch.Settings

variable {α : Type} {old new : Store} {listener : Nat} {news : List Change}

/-- A listener that is there and has not left. -/
def Store.Hears (store : Store) (listener : Nat) : Prop :=
  store.inboxes[listener]?.join.isSome = true

instance (store : Store) (listener : Nat) : Decidable (store.Hears listener) :=
  inferInstanceAs (Decidable (_ = true))

/-- Who is there has an inbox. -/
theorem Store.Hears.there {store : Store} (hears : store.Hears listener) :
    listener < store.inboxes.length := by
  by_contra beyond
  unfold Store.Hears at hears
  rw [List.getElem?_eq_none (Nat.le_of_not_lt beyond)] at hears
  cases hears

/-- Who is not there has nothing to read. -/
theorem unread_of_not_hears {store : Store} (gone : ¬store.Hears listener) :
    store.unread listener = [] := by
  unfold Store.Hears at gone
  unfold Store.unread
  rw [Option.not_isSome_iff_eq_none.mp gone]
  rfl

/-- Who comes does not disturb the others. -/
theorem inbox_subscribe {store : Store} (there : listener < store.inboxes.length) :
    store.subscribe.2.inboxes[listener]?.join = store.inboxes[listener]?.join := by
  unfold Store.subscribe
  dsimp only
  rw [List.getElem?_append_left there]

/-- **News are added to what a listener has yet to read.** -/
theorem unread_told (told : Told old new news) (hears : old.Hears listener) :
    new.unread listener = old.unread listener ++ news := by
  unfold Store.Hears at hears
  unfold Store.unread
  rw [told.inboxes, List.getElem?_map]
  cases inbox : old.inboxes[listener]?.join with
  | none =>
    rw [inbox] at hears
    cases hears
  | some changes =>
    rw [Option.join_eq_some_iff.mp inbox]
    rfl

theorem hears_told (told : Told old new news) (hears : old.Hears listener) :
    new.Hears listener := by
  unfold Store.Hears at *
  rw [told.inboxes, List.getElem?_map]
  cases inbox : old.inboxes[listener]?.join with
  | none =>
    rw [inbox] at hears
    cases hears
  | some changes =>
    rw [Option.join_eq_some_iff.mp inbox]
    rfl

/-- Another listener's inbox stays as it is when a change is handed out. -/
theorem inbox_handOut (store : Store) (other place listener : Nat) :
    (store.handOut other place).inboxes[listener]?.join =
      if other = listener then store.inboxes[listener]?.join.map (·.eraseIdx place)
      else store.inboxes[listener]?.join := by
  unfold Store.handOut
  rw [List.getElem?_modify]
  by_cases same : other = listener
  · simp only [if_pos same]
    rcases store.inboxes[listener]? with _ | _ | changes
    · rfl
    · rfl
    · rfl
  · simp only [if_neg same]
    exact congrArg Option.join Option.map_id'

theorem hears_handOut {store : Store} {other place : Nat} :
    (store.handOut other place).Hears listener ↔ store.Hears listener := by
  unfold Store.Hears
  rw [inbox_handOut]
  split
  · rw [Option.isSome_map]
  · rfl

/-- **Of what a listener has yet to read, only the change that is handed out goes.** -/
theorem unread_handOut {store : Store} {other place : Nat} {change handed : Change}
    (found : (store.unread other)[place]? = some handed) (unread : change ∈ store.unread listener) :
    change ∈ (store.handOut other place).unread listener ∨ change = handed := by
  unfold Store.unread at *
  rw [inbox_handOut]
  by_cases same : other = listener
  · subst same
    rw [if_pos rfl]
    cases inbox : store.inboxes[other]?.join with
    | none =>
      rw [inbox] at unread
      cases unread
    | some changes =>
      rw [inbox] at found unread
      obtain ⟨index, here⟩ := List.mem_iff_getElem?.mp unread
      by_cases gone : index = place
      · rw [gone] at here
        exact Or.inr (Option.some.inj (here.symm.trans found))
      · exact Or.inl (List.mem_eraseIdx_iff_getElem?.mpr ⟨index, gone, here⟩)
  · rw [if_neg same]
    exact Or.inl unread

/-! ### Copies -/

/-- A copy is what the store says now, or the listener has yet to read a change of its name. -/
def Fresh (store : Store) (listener : Nat) (name : String) (reading : Table → α) (copy : α) :
    Prop :=
  copy = reading store.table ∨ ∃ change ∈ store.unread listener, change.touches name = true

variable {name : String} {reading : Table → α} {copy : α}

/-- With all changes read, a fresh copy is what the store says. -/
theorem Fresh.current (fresh : Fresh old listener name reading copy)
    (read : old.unread listener = []) : copy = reading old.table := by
  rcases fresh with current | ⟨change, unread, _⟩
  · exact current
  · rw [read] at unread
    cases unread

/-- **A deed on the settings leaves a copy fresh.** -/
theorem Fresh.told (told : Told old new news) (hears : old.Hears listener)
    (congr : ∀ {old new : Table}, SameAt name old new → reading old = reading new)
    (fresh : Fresh old listener name reading copy) : Fresh new listener name reading copy := by
  have unread : new.unread listener = old.unread listener ++ news := unread_told told hears
  rcases fresh with current | ⟨change, waiting, touches⟩
  · rcases told.touched name with same | ⟨change, announced, touches⟩
    · exact Or.inl (current.trans (congr same))
    · refine Or.inr ⟨change, ?_, touches⟩
      rw [unread]
      exact List.mem_append_right _ announced
  · refine Or.inr ⟨change, ?_, touches⟩
    rw [unread]
    exact List.mem_append_left _ waiting

/-- **A change that is read leaves a copy fresh.** It need not be the oldest one: a copy that it
touches is taken from the store as it is now, and not from the change. -/
theorem Fresh.refresh {change : Change} {again : Bool} (table : new.table = old.table)
    (left : ∀ other ∈ old.unread listener, other ∈ new.unread listener ∨ other = change)
    (touched : change.touches name = true → again = true)
    (fresh : Fresh old listener name reading copy) :
    Fresh new listener name reading (if again then reading new.table else copy) := by
  cases again with
  | true => exact Or.inl rfl
  | false =>
    rcases fresh with current | ⟨other, unread, touches⟩
    · exact Or.inl (current.trans (congrArg reading table.symm))
    · rcases left other unread with unread | rfl
      · exact Or.inr ⟨other, unread, touches⟩
      · cases touched touches

end TouchDispatch.Settings
