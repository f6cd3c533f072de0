/-
**Being the same is an equivalence.**

* `Value.same_refl`, `Value.same_trans`: a value is the same as itself, and what is the same as a
  value is the same as all that this is the same as.

The store never compares for more than sameness, so this is what lets a chain of changes that leave
a name out speak of its first and its last value.
-/

import TouchDispatch.Json.Value

namespace TouchDispatch

theorem Number.Binary64.same_refl (number : Binary64) : number.same number = true := by
  rw [same, BEq.rfl, BEq.rfl]
  rfl

theorem Number.Binary64.same_trans {first second third : Binary64}
    (left : first.same second = true) (right : second.same third = true) :
    first.same third = true := by
  simp only [same, Bool.and_eq_true, Bool.or_eq_true, beq_iff_eq] at left right ⊢
  obtain ⟨size, sign⟩ := left
  obtain ⟨otherSize, otherSign⟩ := right
  refine ⟨size.trans otherSize, ?_⟩
  rcases sign with sign | zero
  · rw [sign, size]
    exact otherSign
  · exact Or.inr zero

namespace Json

theorem Number.same_refl (number : Number) : number.same number = true := by
  cases number with
  | whole value => exact BEq.rfl
  | double value => exact value.same_refl

theorem Number.same_trans {first second third : Number} (left : first.same second = true)
    (right : second.same third = true) : first.same third = true := by
  cases first <;> cases second <;> try cases left
  all_goals cases third <;> try cases right
  case whole.whole.whole =>
    exact beq_iff_eq.mpr ((beq_iff_eq.mp left).trans (beq_iff_eq.mp right))
  case double.double.double => exact Number.Binary64.same_trans left right

mutual

theorem Value.same_refl (value : Value) : value.same value = true := by
  cases value with
  | null => rfl
  | bool value => exact BEq.rfl
  | number number => exact number.same_refl
  | text text => exact BEq.rfl
  | array items => exact sameItems_refl items
  | object members => exact sameMembers_refl members

theorem sameItems_refl (items : List Value) : sameItems items items = true := by
  cases items with
  | nil => rfl
  | cons item rest => exact Bool.and_eq_true_iff.mpr ⟨item.same_refl, sameItems_refl rest⟩

theorem sameMembers_refl (members : List (String × Value)) :
    sameMembers members members = true := by
  cases members with
  | nil => rfl
  | cons member rest =>
    obtain ⟨name, value⟩ := member
    rw [sameMembers, BEq.rfl, value.same_refl, sameMembers_refl rest]
    rfl

end

mutual

theorem Value.same_trans {first second third : Value} (left : first.same second = true)
    (right : second.same third = true) : first.same third = true := by
  cases first <;> cases second <;> try cases left
  case null.null.refl => exact right
  all_goals cases third <;> try cases right
  case bool.bool.bool =>
    exact beq_iff_eq.mpr ((beq_iff_eq.mp left).trans (beq_iff_eq.mp right))
  case number.number.number => exact Number.same_trans left right
  case text.text.text =>
    exact beq_iff_eq.mpr ((beq_iff_eq.mp left).trans (beq_iff_eq.mp right))
  case array.array.array => exact sameItems_trans left right
  case object.object.object => exact sameMembers_trans left right
termination_by structural first

theorem sameItems_trans {first second third : List Value} (left : sameItems first second = true)
    (right : sameItems second third = true) : sameItems first third = true := by
  cases first <;> cases second <;> try cases left
  case nil.nil.refl => exact right
  all_goals cases third <;> try cases right
  case cons.cons.cons =>
    obtain ⟨here, rest⟩ := Bool.and_eq_true_iff.mp left
    obtain ⟨there, others⟩ := Bool.and_eq_true_iff.mp right
    exact Bool.and_eq_true_iff.mpr ⟨Value.same_trans here there, sameItems_trans rest others⟩
termination_by structural first

theorem sameMembers_trans {first second third : List (String × Value)}
    (left : sameMembers first second = true) (right : sameMembers second third = true) :
    sameMembers first third = true := by
  cases first <;> cases second <;> try cases left
  case nil.nil.refl => exact right
  all_goals cases third <;> try cases right
  case cons.cons.cons =>
    rw [sameMembers, Bool.and_eq_true, Bool.and_eq_true, beq_iff_eq] at left right ⊢
    obtain ⟨⟨name, here⟩, rest⟩ := left
    obtain ⟨⟨otherName, there⟩, others⟩ := right
    exact ⟨⟨name.trans otherName, Value.same_trans here there⟩, sameMembers_trans rest others⟩
termination_by structural first

end

end Json

end TouchDispatch
