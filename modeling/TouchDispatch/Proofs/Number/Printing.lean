/-
**The digits that are printed stand for the number.**

* `nearestDecimal`: the magnitude nearest to a decimal;
* `neighbour?_isSome`: **seventeen digits are enough** to come close to a magnitude;
* `dropZeros_spec`: zeros at the end are dropped without loss;
* `shortest_spec`: **the shortest decimal is nearest to the magnitude that it is printed for**, and
  fits in 64 bits.
-/

import Mathlib.Algebra.Order.Floor.Semifield
import TouchDispatch.Number.Shortest
import TouchDispatch.Proofs.Number.Rounding
import TouchDispatch.Proofs.Text.Decimals

namespace TouchDispatch.Number.Binary64

open TouchDispatch.Text

/-- The magnitude nearest to a decimal. -/
def nearestDecimal (significand : Nat) (exponent : ℤ) : Nat :=
  nearest (significand * (tenTo exponent).1) (tenTo exponent).2

variable {magnitude significand other : Nat} {exponent further : ℤ}

/-! ### Decimals -/

theorem tenTo_pos (exponent : ℤ) : 0 < (tenTo exponent).1 ∧ 0 < (tenTo exponent).2 :=
  ⟨Nat.pow_pos (by decide), Nat.pow_pos (by decide)⟩

/-- What a decimal stands for. -/
theorem decimal_eq (significand : Nat) (exponent : ℤ) :
    ((significand * (tenTo exponent).1 : Nat) : ℚ) / (tenTo exponent).2 =
      significand * 10 ^ exponent := by
  rw [Nat.cast_mul, mul_div_assoc]
  congr 1
  exact pow_div_pow 10 exponent

theorem nearestDecimal_congr (positive : 0 < significand)
    (same : (significand : ℚ) * 10 ^ exponent = other * 10 ^ further) :
    nearestDecimal significand exponent = nearestDecimal other further := by
  refine nearest_congr (Nat.mul_pos positive (tenTo_pos _).1) (tenTo_pos _).2 (tenTo_pos _).2 ?_
  rw [decimal_eq, decimal_eq, same]

theorem nearestDecimal_of_close (positive : 0 < significand)
    (close : |(significand : ℚ) * 10 ^ exponent - value magnitude| < value magnitude / 2 ^ 54) :
    nearestDecimal significand exponent = magnitude := by
  refine nearest_of_close (Nat.mul_pos positive (tenTo_pos _).1) (tenTo_pos _).2 ?_
  rwa [decimal_eq]

theorem value_pos (positive : 0 < magnitude) : 0 < value magnitude := by
  obtain ⟨place, units, rfl, few, least⟩ := exists_units magnitude
  have some : 0 < units := by
    refine Nat.pos_of_ne_zero ?_
    rintro rfl
    obtain rfl := least.resolve_right (by decide)
    simp at positive
  rw [value_units few.le least]
  exact mul_pos (Nat.cast_pos.mpr some) (unit_pos place)

theorem ratio_pos (positive : 0 < magnitude) :
    0 < (ratio magnitude).1 ∧ 0 < (ratio magnitude).2 := by
  have value_ne := (value_pos positive).ne'
  unfold value at value_ne
  constructor
  · refine Nat.pos_of_ne_zero fun zero => value_ne ?_
    rw [zero]
    simp
  · refine Nat.pos_of_ne_zero fun zero => value_ne ?_
    rw [zero]
    simp

/-- The decimal place of a magnitude is its decimal logarithm. -/
theorem decimalPlace_eq_log (positive : 0 < magnitude) :
    decimalPlace (ratio magnitude).1 (ratio magnitude).2 = Int.log 10 (value magnitude) := by
  obtain ⟨top, bottom⟩ := ratio_pos positive
  obtain ⟨high, highLength, topLeast, topMost⟩ := Decimal.digits_bounds top
  obtain ⟨low, lowLength, bottomLeast, bottomMost⟩ := Decimal.digits_bounds bottom
  have guess : ((high + 1 : ℕ) : ℤ) - (low + 1 : ℕ) = (high : ℤ) - low := by omega
  unfold decimalPlace
  rw [highLength, lowLength, guess]
  exact place_eq_log (by decide) topLeast topMost bottomLeast bottomMost

/-! ### Neighbours -/

/-- A magnitude counted in units of a power of ten. -/
theorem scaled_eq (magnitude : Nat) (exponent : ℤ) :
    (((ratio magnitude).1 * (tenTo exponent).2 : Nat) : ℚ) /
        ((ratio magnitude).2 * (tenTo exponent).1 : Nat) =
      value magnitude / 10 ^ exponent :=
  div_mul_pow 10 (ratio magnitude).1 (ratio magnitude).2 exponent

theorem readsBack_iff :
    readsBack magnitude significand exponent = true ↔
      nearestDecimal significand exponent = magnitude :=
  beq_iff_eq

/-- The neighbours of a magnitude on a decimal grid, of which the first one is the lower one. -/
theorem exists_floor (magnitude : Nat) (exponent : ℤ) : ∃ floor : ℕ,
    (ratio magnitude).1 * (tenTo exponent).2 / ((ratio magnitude).2 * (tenTo exponent).1) = floor ∧
      (floor : ℚ) ≤ value magnitude / 10 ^ exponent ∧
        value magnitude / 10 ^ exponent < floor + 1 := by
  have nonneg : 0 ≤ value magnitude / 10 ^ exponent := by
    unfold value
    positivity
  refine ⟨_, rfl, ?_⟩
  rw [← Nat.floor_div_eq_div (K := ℚ), scaled_eq]
  exact ⟨Nat.floor_le nonneg, Nat.lt_floor_add_one _⟩

/-- **A decimal that is found is nearest to the magnitude**, and it is a neighbour. -/
theorem neighbour?_spec (found : neighbour? magnitude exponent = some significand) :
    nearestDecimal significand exponent = magnitude ∧
      (significand : ℚ) ≤ value magnitude / 10 ^ exponent + 1 := by
  obtain ⟨floor, exact, least, -⟩ := exists_floor magnitude exponent
  have between : ∀ rounded, rounded = roundHalfEven
      ((ratio magnitude).1 * (tenTo exponent).2) ((ratio magnitude).2 * (tenTo exponent).1) →
        rounded = floor ∨ rounded = floor + 1 := by
    rintro rounded rfl
    unfold roundHalfEven
    rw [exact]
    dsimp only
    split
    · exact Or.inl rfl
    · split
      · exact Or.inr rfl
      · omega
  have bound : ∀ neighbour, neighbour = floor ∨ neighbour = floor + 1 →
      (neighbour : ℚ) ≤ value magnitude / 10 ^ exponent + 1 := by
    rintro neighbour (rfl | rfl)
    · linarith
    · push_cast
      linarith
  unfold neighbour? at found
  dsimp only at found
  rw [exact] at found
  split at found
  · next lower upper =>
    obtain rfl := Option.some.inj found
    have either := between _ rfl
    refine ⟨?_, bound _ either⟩
    rcases either with same | same
    · rw [same, readsBack_iff.mp lower]
    · rw [same, readsBack_iff.mp upper]
  · next lower upper =>
    obtain rfl := Option.some.inj found
    exact ⟨readsBack_iff.mp lower, bound _ (Or.inl rfl)⟩
  · next lower upper =>
    obtain rfl := Option.some.inj found
    exact ⟨readsBack_iff.mp upper, bound _ (Or.inr rfl)⟩
  · cases found

/-- **Seventeen digits are enough** to come close to a magnitude. -/
theorem neighbour?_isSome (positive : 0 < magnitude) :
    (neighbour? magnitude (Int.log 10 (value magnitude) - (16 : ℕ))).isSome = true := by
  have value_positive := value_pos positive
  have least := Int.zpow_log_le_self (b := 10) (by decide) value_positive
  generalize at_place : Int.log 10 (value magnitude) - (16 : ℕ) = exponent
  obtain ⟨floor, exact, lower, upper⟩ := exists_floor magnitude exponent
  have grid_pos : (0 : ℚ) < 10 ^ exponent := by positivity
  have fine : 10 ^ 16 * (10 : ℚ) ^ exponent ≤ value magnitude := by
    have power : (10 : ℚ) ^ 16 * 10 ^ exponent = ((10 : ℕ) : ℚ) ^ Int.log 10 (value magnitude) := by
      rw [← zpow_natCast, ← zpow_add₀ (by norm_num)]
      congr 1
      omega
    rw [power]
    exact least
  rw [le_div_iff₀ grid_pos] at lower
  rw [div_lt_iff₀ grid_pos] at upper
  have floor_pos : 0 < floor := by
    refine Nat.pos_of_ne_zero ?_
    rintro rfl
    simp only [Nat.cast_zero, zero_add, one_mul] at upper
    linarith
  -- One of the two neighbours is at most half a unit of the grid away.
  have reads : readsBack magnitude floor exponent = true ∨
      readsBack magnitude (floor + 1) exponent = true := by
    rcases le_total (value magnitude) ((floor + 1 / 2) * 10 ^ exponent) with near | near
    · refine Or.inl (readsBack_iff.mpr (nearestDecimal_of_close floor_pos ?_))
      rw [abs_lt]
      constructor <;> linarith
    · refine Or.inr (readsBack_iff.mpr (nearestDecimal_of_close floor.succ_pos ?_))
      push_cast
      rw [abs_lt]
      constructor <;> linarith
  unfold neighbour?
  dsimp only
  rw [exact]
  cases low : readsBack magnitude floor exponent with
  | true => cases readsBack magnitude (floor + 1) exponent <;> rfl
  | false =>
    rw [reads.resolve_left (by rw [low]; decide)]
    rfl

/-! ### The shortest decimal -/

/-- **Zeros at the end are dropped without loss.** -/
theorem dropZeros_spec (positive : 0 < significand) (exponent : ℤ) :
    0 < (dropZeros significand exponent).1 ∧ (dropZeros significand exponent).1 ≤ significand ∧
      ((dropZeros significand exponent).1 : ℚ) * 10 ^ (dropZeros significand exponent).2 =
        significand * 10 ^ exponent := by
  induction significand using Nat.strongRecOn generalizing exponent with
  | ind significand ih =>
    rw [dropZeros]
    by_cases ends : 0 < significand ∧ significand % 10 = 0
    · rw [dif_pos ends]
      obtain ⟨some, le, same⟩ := ih (significand / 10) (by omega) (by omega) (exponent + 1)
      refine ⟨some, by omega, same.trans ?_⟩
      have whole : significand = significand / 10 * 10 := by omega
      rw [zpow_add_one₀ (by norm_num)]
      conv_rhs => rw [whole]
      push_cast
      ring
    · rw [dif_neg ends]
      exact ⟨positive, le_rfl, rfl⟩

/-- Seventeen digits make a number of at most seventeen digits, or a one with so many zeros. -/
theorem digits_le {count : Nat} (range : count ∈ List.range 17)
    (bound : (significand : ℚ) ≤
      value magnitude / 10 ^ (Int.log 10 (value magnitude) - (count : ℤ)) + 1) :
    significand ≤ 10 ^ 17 := by
  have few := List.mem_range.mp range
  have most := Int.lt_zpow_succ_log_self (b := 10) (by decide) (value magnitude)
  generalize Int.log 10 (value magnitude) = place at most bound
  have grid_pos : (0 : ℚ) < 10 ^ (place - (count : ℤ)) := by positivity
  have power : ((10 : ℕ) : ℚ) ^ (place + 1) = 10 ^ (count + 1) * 10 ^ (place - (count : ℤ)) := by
    rw [← zpow_natCast, ← zpow_add₀ (by norm_num), Nat.cast_ofNat]
    congr 1
    push_cast
    ring
  rw [power, ← div_lt_iff₀ grid_pos] at most
  have wide : (10 : ℚ) ^ (count + 1) ≤ 10 ^ 17 := pow_le_pow_right₀ (by norm_num) (by omega)
  have less : (significand : ℚ) < ((10 ^ 17 + 1 : ℕ) : ℚ) := by
    push_cast
    linarith
  exact Nat.lt_succ_iff.mp (Nat.cast_lt.mp less)

/-- **The shortest decimal is nearest to the magnitude that it is printed for.** -/
theorem shortest_spec (positive : 0 < magnitude) :
    0 < (shortest magnitude).1 ∧ (shortest magnitude).1 ≤ 10 ^ 17 ∧
      nearestDecimal (shortest magnitude).1 (shortest magnitude).2 = magnitude := by
  have place := decimalPlace_eq_log positive
  unfold shortest
  rw [if_neg positive.ne']
  dsimp only
  rw [place]
  cases found : (List.range 17).findSome? fun (count : Nat) =>
      (neighbour? magnitude (Int.log 10 (value magnitude) - count)).map fun digits =>
        (digits, Int.log 10 (value magnitude) - count) with
  | none =>
    have missing := List.findSome?_eq_none_iff.mp found 16 (List.mem_range.mpr (by decide))
    have there := neighbour?_isSome positive
    rw [Option.map_eq_none_iff.mp missing] at there
    cases there
  | some decimal =>
    obtain ⟨count, range, made⟩ := List.exists_of_findSome?_eq_some found
    obtain ⟨digits, hit, rfl⟩ := Option.map_eq_some_iff.mp made
    obtain ⟨closest, bound⟩ := neighbour?_spec hit
    have some : 0 < digits := by
      refine Nat.pos_of_ne_zero ?_
      rintro rfl
      rw [nearestDecimal, Nat.zero_mul] at closest
      exact positive.ne closest
    obtain ⟨kept, le, same⟩ := dropZeros_spec some (Int.log 10 (value magnitude) - count)
    exact ⟨kept, le.trans (digits_le range bound),
      (nearestDecimal_congr kept same).trans closest⟩

end TouchDispatch.Number.Binary64
