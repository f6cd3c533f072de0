/-
**The names that a change is announced under.**

* `Tells`: a list of names that says exactly under which names two tables differ;
* `mem_names_merge`, `get?_merge_of_mem`: **a merge sets every value that is not the same as the old
  one, and no other**;
* `tells_merge`, `tells_difference`: the names of a merge and of a reload tell exactly what changes.

Both need that each name occurs once, which the order of a table gives.
-/

import TouchDispatch.Proofs.Json.Order
import TouchDispatch.Proofs.Json.Sameness
import TouchDispatch.Proofs.Settings.Deed

namespace TouchDispatch.Settings

open TouchDispatch.Json

variable {table values old new : Table} {name : String} {value : Value}

/-! ### Sameness of tables -/

theorem SameAt.trans {middle : Table} (left : SameAt name old middle)
    (right : SameAt name middle new) : SameAt name old new := by
  rcases left with same | ⟨first, second, foundFirst, foundSecond, same⟩
  · unfold SameAt
    rw [same]
    exact right
  · rcases right with equal | ⟨third, fourth, foundThird, foundFourth, alike⟩
    · exact Or.inr ⟨first, second, foundFirst, equal ▸ foundSecond, same⟩
    · obtain rfl := Option.some.inj (foundSecond.symm.trans foundThird)
      exact Or.inr ⟨first, fourth, foundFirst, foundFourth, Value.same_trans same alike⟩

/-- A value that is set is the same as what was there exactly if the store says so. -/
theorem holds_iff_sameAt (set : new.get? name = some value) :
    holds old name value = true ↔ SameAt name old new := by
  unfold holds SameAt
  rw [set]
  cases old.get? name with
  | none => simp
  | some before =>
    constructor
    · exact fun same => Or.inr ⟨before, value, rfl, rfl, same⟩
    · rintro (equal | ⟨first, second, foundFirst, foundSecond, same⟩)
      · obtain rfl := Option.some.inj equal
        exact before.same_refl
      · obtain rfl := Option.some.inj foundFirst
        obtain rfl := Option.some.inj foundSecond
        exact same

theorem holds_congr {other : Table} (same : table.get? name = other.get? name) :
    holds table name value = holds other name value := by
  unfold holds
  rw [same]

/-! ### Names of a table -/

theorem mem_names_iff : name ∈ table.names ↔ table.get? name ≠ none := by
  induction table with
  | nil => exact iff_of_false List.not_mem_nil fun some => some rfl
  | cons member rest ih =>
    obtain ⟨first, held⟩ := member
    unfold Fields.get?
    by_cases here : first = name
    · subst here
      rw [if_pos rfl]
      exact iff_of_true List.mem_cons_self (Option.some_ne_none held)
    · rw [if_neg here, ← ih]
      simp [Fields.names, Ne.symm here]

theorem mem_names_filter {kept : String × Value → Bool} (ordered : table.Ordered) :
    name ∈ Fields.names (table.filter kept) ↔
      ∃ value, table.get? name = some value ∧ kept (name, value) = true := by
  constructor
  · intro named
    obtain ⟨⟨_, value⟩, found, rfl⟩ := List.mem_map.mp named
    obtain ⟨member, keeps⟩ := List.mem_filter.mp found
    exact ⟨value, ordered.get?_of_mem member, keeps⟩
  · rintro ⟨value, found, keeps⟩
    exact List.mem_map.mpr ⟨(name, value), List.mem_filter.mpr ⟨mem_of_get? found, keeps⟩, rfl⟩

/-! ### Merging -/

theorem merge_held (rest : Table) (held : holds table name value = true) :
    merge table ((name, value) :: rest) = merge table rest :=
  if_pos held

theorem merge_set (rest : Table) (differs : holds table name value = false) :
    merge table ((name, value) :: rest) =
      ((merge (table.insert name value) rest).1,
        name :: (merge (table.insert name value) rest).2) :=
  if_neg (Bool.eq_false_iff.mp differs)

/-- What holds of a table and survives every new value holds of the merged table. -/
theorem merge_induction {property : Table → Prop} (start : property table)
    (step : ∀ member ∈ values, ∀ before, property before →
      property (before.insert member.1 member.2)) : property (merge table values).1 := by
  induction values generalizing table with
  | nil => exact start
  | cons member rest ih =>
    obtain ⟨name, value⟩ := member
    have later : ∀ member ∈ rest, ∀ before, property before →
        property (before.insert member.1 member.2) := fun member given =>
      step member (List.mem_cons_of_mem _ given)
    cases held : holds table name value with
    | true =>
      rw [merge_held rest held]
      exact ih start later
    | false =>
      rw [merge_set rest held]
      exact ih (step (name, value) List.mem_cons_self table start) later

theorem ordered_merge (ordered : table.Ordered) (values : Table) :
    (merge table values).1.Ordered :=
  merge_induction ordered fun member _ _ before => before.insert member.1 member.2

theorem names_merge_sublist (table values : Table) :
    (merge table values).2.Sublist values.names := by
  induction values generalizing table with
  | nil => exact List.Sublist.slnil
  | cons member rest ih =>
    obtain ⟨name, value⟩ := member
    cases held : holds table name value with
    | true =>
      rw [merge_held rest held]
      exact (ih table).cons name
    | false =>
      rw [merge_set rest held]
      exact (ih _).cons_cons name

/-- In order, the first name does not come again. -/
theorem get?_rest_of_ordered {rest : Table}
    (ordered : Fields.Ordered ((name, value) :: rest)) : rest.get? name = none := by
  have once := (List.nodup_cons.mp ordered.nodup_names).1
  exact not_not.mp (mem_names_iff.not.mp once)

/-- **A merge names what it sets to a value that is not the same.** -/
theorem mem_names_merge (ordered : values.Ordered) (table : Table) :
    name ∈ (merge table values).2 ↔
      ∃ value, values.get? name = some value ∧ holds table name value = false := by
  induction values generalizing table with
  | nil => simp [merge, Fields.get?]
  | cons member rest ih =>
    obtain ⟨first, value⟩ := member
    have others : Fields.Ordered rest := (List.pairwise_cons.mp ordered).2
    have once := get?_rest_of_ordered ordered
    cases held : holds table first value with
    | true =>
      rw [merge_held rest held, ih others, Fields.get?]
      by_cases here : first = name
      · subst here
        simp [once, held]
      · rw [if_neg here]
    | false =>
      rw [merge_set rest held, List.mem_cons, ih others, Fields.get?]
      by_cases here : first = name
      · subst here
        simp [held]
      · have apart : (table.insert first value).get? name = table.get? name := by
          rw [get?_insert, if_neg here]
        simp [here, Ne.symm here, holds_congr apart]

/-- **A merge sets what it names to the new value.** -/
theorem get?_merge_of_mem (ordered : values.Ordered) (table : Table)
    (named : name ∈ (merge table values).2) :
    (merge table values).1.get? name = values.get? name := by
  induction values generalizing table with
  | nil => cases named
  | cons member rest ih =>
    obtain ⟨first, value⟩ := member
    have others : Fields.Ordered rest := (List.pairwise_cons.mp ordered).2
    have once : ∀ table, first ∉ (merge table rest).2 := fun table named =>
      mem_names_iff.mp ((names_merge_sublist table rest).mem named) (get?_rest_of_ordered ordered)
    rw [Fields.get?]
    cases held : holds table first value with
    | true =>
      rw [merge_held rest held] at named ⊢
      have apart : first ≠ name := fun here => once table (here ▸ named)
      rw [if_neg apart]
      exact ih others table named
    | false =>
      rw [merge_set rest held] at named ⊢
      by_cases here : first = name
      · subst here
        rw [if_pos rfl, get?_merge _ _ _ (once _), get?_insert, if_pos rfl]
      · rw [if_neg here]
        exact ih others _ ((List.mem_cons.mp named).resolve_left (Ne.symm here))

/-! ### What the names tell -/

/-- A list of names that says exactly under which names two tables differ, each once. -/
structure Tells (names : List String) (old new : Table) : Prop where
  nodup : names.Nodup
  mem_iff : ∀ name, name ∈ names ↔ ¬SameAt name old new

/-- **The names of a merge tell what changes.** -/
theorem tells_merge (ordered : values.Ordered) (table : Table) :
    Tells (merge table values).2 table (merge table values).1 := by
  refine ⟨ordered.nodup_names.sublist (names_merge_sublist table values), fun name => ?_⟩
  constructor
  · intro named
    obtain ⟨value, given, differs⟩ := (mem_names_merge ordered table).mp named
    have set := (get?_merge_of_mem ordered table named).trans given
    rw [← holds_iff_sameAt set, differs]
    exact Bool.false_ne_true
  · intro differs
    by_contra left
    exact differs (Or.inl (get?_merge table values name left).symm)

/-- **The names of a difference tell what changes.** -/
theorem tells_difference (before : old.Ordered) (after : new.Ordered) :
    Tells (difference old new) old new := by
  have changed : ∀ name, name ∈ Fields.names (new.filter fun member =>
      !holds old member.1 member.2) ↔
        ∃ value, new.get? name = some value ∧ ¬SameAt name old new := by
    intro name
    rw [mem_names_filter after]
    refine exists_congr fun value => and_congr_right fun set => ?_
    rw [← holds_iff_sameAt set, Bool.not_eq_true', Bool.eq_false_iff]
  have gone : ∀ name, name ∈ Fields.names (old.filter fun member =>
      (new.get? member.1).isNone) ↔ new.get? name = none ∧ ¬SameAt name old new := by
    intro name
    rw [mem_names_filter before]
    constructor
    · rintro ⟨value, found, none⟩
      have none := Option.isNone_iff_eq_none.mp none
      refine ⟨none, ?_⟩
      rintro (equal | ⟨_, _, _, set, _⟩)
      · exact nomatch (equal.symm.trans found).symm.trans none
      · exact nomatch none.symm.trans set
    · rintro ⟨none, differs⟩
      cases found : old.get? name with
      | none => exact absurd (Or.inl (found.trans none.symm)) differs
      | some value => exact ⟨value, rfl, Option.isNone_iff_eq_none.mpr none⟩
  refine ⟨?_, fun name => ?_⟩
  · refine List.nodup_append.mpr ⟨(after.filter _).nodup_names, (before.filter _).nodup_names, ?_⟩
    rintro first named second goneNamed rfl
    obtain ⟨value, set, _⟩ := (changed first).mp named
    exact nomatch ((gone first).mp goneNamed).1.symm.trans set
  · rw [difference, List.mem_append, changed, gone]
    cases new.get? name <;> simp

/-- **A table differs from itself nowhere.** -/
theorem difference_self (ordered : table.Ordered) : difference table table = [] := by
  refine List.eq_nil_iff_forall_not_mem.mpr fun name named => ?_
  exact ((tells_difference ordered ordered).mem_iff name).mp named (.refl name table)

end TouchDispatch.Settings
