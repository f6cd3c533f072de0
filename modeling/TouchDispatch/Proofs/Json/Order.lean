/-
**The members of an object stay in order.**

* `Fields.Ordered`: the names increase, so each occurs once;
* `Ordered.insert`, `Ordered.filter`: setting a value, and leaving members out, keep the order;
* `insert_last`: the value of a name that comes after all others is set at the end;
* `Ordered.get?_of_mem`: a member is found under its name.
-/

import Mathlib.Data.String.Basic
import TouchDispatch.Json.Value

namespace TouchDispatch.Json.Fields

/-- The names of the members increase. -/
def Ordered (fields : Fields) : Prop :=
  fields.Pairwise fun first second => first.1 < second.1

variable {fields : Fields} {name : String} {value : Value}

theorem ordered_nil : Ordered [] :=
  List.Pairwise.nil

theorem ordered_single (name : String) (value : Value) : Ordered [(name, value)] :=
  List.pairwise_singleton _ _

theorem Ordered.filter (ordered : Ordered fields) (kept : String × Value → Bool) :
    Ordered (fields.filter kept) :=
  List.Pairwise.filter kept ordered

/-- The order is one of the names alone. -/
theorem ordered_congr {others : Fields} (same : fields.names = others.names) :
    fields.Ordered ↔ others.Ordered := by
  have by_names : ∀ members : Fields,
      members.Ordered ↔ members.names.Pairwise fun first second => first < second :=
    fun _ => List.pairwise_map.symm
  rw [by_names, by_names, same]

/-- In order, each name occurs once. -/
theorem Ordered.nodup_names (ordered : Ordered fields) : fields.names.Nodup :=
  List.pairwise_map.mpr (List.Pairwise.imp (fun before => ne_of_lt before) ordered)

theorem mem_insert {member : String × Value} (inserted : member ∈ insert fields name value) :
    member = (name, value) ∨ member ∈ fields := by
  induction fields with
  | nil => exact Or.inl (List.mem_singleton.mp inserted)
  | cons first rest ih =>
    unfold insert at inserted
    split at inserted
    · rcases List.mem_cons.mp inserted with here | there
      · exact Or.inl here
      · exact Or.inr (List.mem_cons_of_mem _ there)
    · split at inserted
      · rcases List.mem_cons.mp inserted with here | there
        · exact Or.inl here
        · exact Or.inr there
      · rcases List.mem_cons.mp inserted with here | there
        · exact Or.inr (here ▸ List.mem_cons_self)
        · exact (ih there).imp_right (List.mem_cons_of_mem _)

/-- **Setting a value keeps the order.** -/
theorem Ordered.insert (ordered : Ordered fields) (name : String) (value : Value) :
    Ordered (fields.insert name value) := by
  induction fields with
  | nil => exact ordered_single name value
  | cons first rest ih =>
    obtain ⟨other, old⟩ := first
    obtain ⟨before, others⟩ := List.pairwise_cons.mp ordered
    unfold Fields.insert
    split
    · next same =>
      subst same
      exact List.pairwise_cons.mpr ⟨before, others⟩
    · next apart =>
      split
      · next earlier =>
        refine List.pairwise_cons.mpr ⟨fun member found => ?_, ordered⟩
        rcases List.mem_cons.mp found with rfl | found
        · exact earlier
        · exact lt_trans earlier (before member found)
      · next notEarlier =>
        refine List.pairwise_cons.mpr ⟨fun member found => ?_, ih others⟩
        rcases mem_insert found with rfl | found
        · exact lt_of_le_of_ne (le_of_not_gt notEarlier) apart
        · exact before member found

/-- **The value of a name that comes after all others is set at the end.** -/
theorem insert_last (last : ∀ member ∈ fields, member.1 < name) (value : Value) :
    fields.insert name value = fields ++ [(name, value)] := by
  induction fields with
  | nil => rfl
  | cons first rest ih =>
    have earlier : first.1 < name := last first List.mem_cons_self
    unfold insert
    rw [if_neg (ne_of_lt earlier), if_neg (lt_asymm earlier),
      ih fun member found => last member (List.mem_cons_of_mem _ found)]
    rfl

/-- **A member is found under its name.** -/
theorem Ordered.get?_of_mem (ordered : Ordered fields) {member : String × Value}
    (found : member ∈ fields) : fields.get? member.1 = some member.2 := by
  induction fields with
  | nil => cases found
  | cons first rest ih =>
    obtain ⟨before, others⟩ := List.pairwise_cons.mp ordered
    unfold get?
    rcases List.mem_cons.mp found with rfl | found
    · exact if_pos rfl
    · rw [if_neg (ne_of_lt (before member found))]
      exact ih others found

end TouchDispatch.Json.Fields
