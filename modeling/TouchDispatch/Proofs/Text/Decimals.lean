/-
**A whole number is read from its decimal text.**

* `value_digits`: the digits of a natural number have that number as their value;
* `digits_bounds`: they are as many as the number is long;
* `digits_all`, `integer_all`: a decimal text has nothing in it but digits, and perhaps a minus sign
  in front;
* `int32?_integer`: **a signed 32-bit integer is read as it was written**;
* `fits_of_int32?`: and nothing else is read as one.
-/

import Mathlib.Algebra.Group.Nat.Defs
import TouchDispatch.Text.Decimal

namespace TouchDispatch.Text.Decimal

/-! ### Digits -/

theorem isDigit_digitChar : ∀ digit < 10,
    isDigit (Nat.digitChar digit) = true ∧ digitValue (Nat.digitChar digit) = digit := by
  decide

theorem value_concat (run : List Char) (c : Char) :
    value (run ++ [c]) = 10 * value run + digitValue c :=
  List.foldl_append

/-- **The digits of a natural number have that number as their value.** -/
theorem value_digits (n : Nat) : value (digits n) = n := by
  induction n using Nat.strongRecOn with
  | ind n ih =>
    rw [digits]
    by_cases small : n < 10
    · rw [if_pos small]
      show 10 * 0 + digitValue (Nat.digitChar n) = n
      rw [(isDigit_digitChar n small).2]
      exact Nat.zero_add n
    · rw [if_neg small, value_concat, ih (n / 10) (by omega),
        (isDigit_digitChar (n % 10) (by omega)).2]
      omega

theorem digits_all (n : Nat) : (digits n).all isDigit = true := by
  induction n using Nat.strongRecOn with
  | ind n ih =>
    rw [digits]
    by_cases small : n < 10
    · simp [small, isDigit_digitChar n small]
    · simp [small, ih (n / 10) (by omega), isDigit_digitChar (n % 10) (by omega)]

theorem digits_ne_nil (n : Nat) : digits n ≠ [] := by
  rw [digits]
  split
  · exact List.cons_ne_nil _ _
  · exact List.append_ne_nil_of_right_ne_nil _ (List.cons_ne_nil _ _)

/-- **A number has one digit more than its greatest power of ten has zeros.** -/
theorem digits_bounds {n : Nat} (positive : 0 < n) :
    ∃ zeros, (digits n).length = zeros + 1 ∧ 10 ^ zeros ≤ n ∧ n < 10 ^ (zeros + 1) := by
  induction n using Nat.strongRecOn with
  | ind n ih =>
    rw [digits]
    by_cases small : n < 10
    · rw [if_pos small]
      exact ⟨0, rfl, positive, small⟩
    · obtain ⟨zeros, length, least, most⟩ := ih (n / 10) (by omega) (by omega)
      rw [if_neg small]
      refine ⟨zeros + 1, by rw [List.length_append, length]; rfl, ?_, ?_⟩
      · rw [Nat.pow_succ]
        omega
      · rw [Nat.pow_succ]
        omega

theorem natural?_digits (n : Nat) : natural? (digits n) = some n := by
  unfold natural?
  rw [digits_all, value_digits, List.isEmpty_eq_false_iff.mpr (digits_ne_nil n)]
  rfl

/-! ### Integers -/

/-- A signed 32-bit integer. -/
def FitsInt32 (n : Int) : Prop :=
  int32Least ≤ n ∧ n ≤ int32Greatest

instance (n : Int) : Decidable (FitsInt32 n) :=
  inferInstanceAs (Decidable (_ ∧ _))

theorem fits_of_inInt32? {m n : Int} (read : inInt32? m = some n) : FitsInt32 n := by
  unfold inInt32? at read
  split at read
  · next fits =>
    obtain rfl := Option.some.inj read
    exact fits
  · cases read

/-- What is read as a signed 32-bit integer is one. -/
theorem fits_of_int32? {text : List Char} {n : Int} (read : int32? text = some n) :
    FitsInt32 n := by
  unfold int32? at read
  split at read
  all_goals
    obtain ⟨m, _, inRange⟩ := Option.bind_eq_some_iff.mp read
    exact fits_of_inInt32? inRange

/-- A decimal text has nothing in it but digits, and perhaps a minus sign. -/
theorem integer_all (n : Int) : ∀ c ∈ integer n, isDigit c = true ∨ c = '-' := by
  have digits := List.all_eq_true.mp (digits_all n.natAbs)
  unfold integer
  intro c member
  split at member
  · rcases List.mem_cons.mp member with rfl | member
    · exact Or.inr rfl
    · exact Or.inl (digits c member)
  · exact Or.inl (digits c member)

/-- A run of digits has no sign in front. -/
theorem int32?_of_digits {text : List Char} (digits : text.all isDigit = true) :
    int32? text = (natural? text).bind fun n => inInt32? (n : Int) := by
  unfold int32?
  split
  · cases digits
  · cases digits
  · rfl

/-- **A signed 32-bit integer is read as it was written.** -/
theorem int32?_integer {n : Int} (fits : FitsInt32 n) :
    int32? (integer n) = some n := by
  unfold integer
  by_cases negative : n < 0
  · have back : -(n.natAbs : Int) = n := by omega
    rw [if_pos negative]
    show (natural? (digits n.natAbs)).bind (fun m => inInt32? (-(m : Int))) = some n
    rw [natural?_digits, Option.bind_some, back]
    exact if_pos fits
  · have back : (n.natAbs : Int) = n := by omega
    rw [if_neg negative, int32?_of_digits (digits_all _), natural?_digits, Option.bind_some, back]
    exact if_pos fits

end TouchDispatch.Text.Decimal
