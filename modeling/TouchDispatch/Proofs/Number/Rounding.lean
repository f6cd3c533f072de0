/-
**Rounding to the nearest floating-point number.**

* `value`: the exact value of a magnitude;
* `Rounds`: a number lies between two powers of two, and so many units are nearest to it there;
* `rounds_nearest`, `nearest_congr`: `nearest` rounds, and nothing but the ratio counts;
* `value_nearest_of_units`: **a whole number of units is kept**, if it has few enough binary digits;
* `nearest_of_close`: **whatever lies close to a magnitude is rounded to it**;
* `value_ofNat_le`: to round a whole number adds very little;
* `nearest_lt_infinite`: what lies below the last midpoint is in range.
-/

import Mathlib.Algebra.Order.Field.Power
import Mathlib.Data.Int.Log
import Mathlib.Data.Rat.Cast.Order
import Mathlib.Data.Rat.Floor
import Mathlib.Tactic.FieldSimp
import Mathlib.Tactic.Linarith
import Mathlib.Tactic.NormNum
import Mathlib.Tactic.Positivity
import Mathlib.Tactic.Ring
import TouchDispatch.Number.Binary64

namespace TouchDispatch.Number.Binary64

/-- The exact value of a magnitude. -/
def value (magnitude : Nat) : ℚ :=
  (ratio magnitude).1 / (ratio magnitude).2

/-- The distance of the magnitudes from one power of two to the next, counted from the least one. -/
def unit (place : Nat) : ℚ :=
  2 ^ ((place : ℤ) - 1074)

/-- A number lies in a place, which is between two powers of two or below the first one, and so many
units are nearest to it. -/
structure Rounds (x : ℚ) (place units : Nat) : Prop where
  above : place = 0 ∨ 2 ^ 52 * unit place ≤ x
  below : x < 2 ^ 53 * unit place
  near : |x - units * unit place| ≤ unit place / 2

variable {x : ℚ} {place units numerator denominator magnitude : Nat}

/-! ### Units -/

theorem unit_pos (place : Nat) : 0 < unit place :=
  zpow_pos two_pos _

theorem unit_succ (place : Nat) : unit (place + 1) = 2 * unit place := by
  unfold unit
  rw [← zpow_one_add₀ two_ne_zero]
  congr 1
  push_cast
  ring

theorem unit_le {first second : Nat} (le : first ≤ second) : unit first ≤ unit second :=
  zpow_le_zpow_right₀ one_le_two (by omega)

theorem two_unit_le {first second : Nat} (less : first < second) :
    2 * unit first ≤ unit second := by
  rw [← unit_succ]
  exact unit_le less

/-- The units of a magnitude. There are few of them, but enough for the place. -/
theorem exists_units (magnitude : Nat) : ∃ place units, magnitude = place * step + units ∧
    units < 2 ^ 53 ∧ (place = 0 ∨ 2 ^ 52 ≤ units) := by
  refine ⟨magnitude / step - 1, magnitude - (magnitude / step - 1) * step, ?_, ?_, ?_⟩
  all_goals
    have step_eq : step = 2 ^ 52 := rfl
    rw [step_eq]
    omega

theorem value_eq (magnitude : Nat) : value magnitude =
    if magnitude / step = 0 then (magnitude % step : Nat) * unit 0
    else (step + magnitude % step : Nat) * unit (magnitude / step - 1) := by
  have quotient : ∀ units place power : Nat, place + power = 1074 →
      (units : ℚ) / (Nat.pow 2 power : Nat) = units * unit place := by
    intro units place power sum
    have exact : ((place : ℤ) - 1074) = -(power : ℤ) := by omega
    rw [unit, exact, zpow_neg, zpow_natCast, div_eq_mul_inv, Nat.pow_eq, Nat.cast_pow]
    rfl
  unfold value ratio
  generalize magnitude % step = fraction, magnitude / step = field
  dsimp only
  by_cases tiny : field = 0
  · simp only [if_pos tiny]
    generalize bound : 1074 = most
    exact quotient fraction 0 most (by omega)
  · by_cases small : field < 1075
    · simp only [if_neg tiny, if_pos small]
      exact quotient (step + fraction) (field - 1) (1075 - field) (by omega)
    · have exact : ((field - 1 : Nat) : ℤ) - 1074 = (field - 1075 : Nat) := by omega
      rw [if_neg tiny, if_neg tiny, if_neg small, unit, exact, zpow_natCast, Nat.pow_eq]
      push_cast
      ring

/-- **The value of so many units**, as long as they are enough for the place. -/
theorem value_units (most : units ≤ 2 ^ 53) (least : place = 0 ∨ 2 ^ 52 ≤ units) :
    value (place * step + units) = units * unit place := by
  have step_eq : step = 2 ^ 52 := rfl
  rw [value_eq, step_eq]
  by_cases tiny : units < 2 ^ 52
  · obtain rfl := least.resolve_right (Nat.not_le.mpr tiny)
    rw [Nat.zero_mul, Nat.zero_add, if_pos (by omega), Nat.mod_eq_of_lt (by omega)]
  · rcases most.lt_or_eq with few | rfl
    · have field : (place * 2 ^ 52 + units) / 2 ^ 52 = place + 1 := by omega
      have rest : 2 ^ 52 + (place * 2 ^ 52 + units) % 2 ^ 52 = units := by omega
      rw [if_neg (by omega), rest, field]
      rfl
    · have field : (place * 2 ^ 52 + 2 ^ 53) / 2 ^ 52 = place + 1 + 1 := by omega
      have rest : 2 ^ 52 + (place * 2 ^ 52 + 2 ^ 53) % 2 ^ 52 = 2 ^ 52 := by omega
      rw [if_neg (by omega), rest, field, Nat.add_sub_cancel, unit_succ]
      push_cast
      ring

/-! ### Rounding -/

/-- A power that may be negative is the quotient of two whole ones. -/
theorem pow_div_pow (base : Nat) (exponent : ℤ) :
    ((Nat.pow base exponent.toNat : Nat) : ℚ) / (Nat.pow base (-exponent).toNat : Nat) =
      (base : ℚ) ^ exponent := by
  rw [Nat.pow_eq, Nat.pow_eq, Nat.cast_pow, Nat.cast_pow]
  rcases le_total 0 exponent with up | down
  · lift exponent to ℕ using up
    simp
  · obtain ⟨power, rfl⟩ : ∃ power : ℕ, exponent = -power := ⟨(-exponent).toNat, by omega⟩
    simp

/-- A ratio is divided by a power that may be negative. -/
theorem div_mul_pow (base numerator denominator : Nat) (exponent : ℤ) :
    ((numerator * Nat.pow base (-exponent).toNat : Nat) : ℚ) /
        (denominator * Nat.pow base exponent.toNat : Nat) =
      (numerator : ℚ) / denominator / (base : ℚ) ^ exponent := by
  rw [← pow_div_pow, Nat.cast_mul, Nat.cast_mul, div_div_div_eq]

/-- **To round off a ratio moves it by one half at most.** -/
theorem roundHalfEven_near (numerator : Nat) (positive : 0 < denominator) :
    |(numerator : ℚ) / denominator - roundHalfEven numerator denominator| ≤ 1 / 2 := by
  have parts := Nat.div_add_mod numerator denominator
  have less := Nat.mod_lt numerator positive
  have denominator_pos : (0 : ℚ) < denominator := Nat.cast_pos.mpr positive
  unfold roundHalfEven
  generalize numerator / denominator = whole, numerator % denominator = rest at parts less ⊢
  have split : (numerator : ℚ) / denominator = whole + rest / denominator := by
    rw [← parts]
    push_cast
    field_simp
  have half : (rest : ℚ) / denominator ≤ 1 / 2 ↔ 2 * rest ≤ denominator := by
    rw [div_le_iff₀ denominator_pos, ← Nat.cast_le (α := ℚ)]
    push_cast
    constructor <;> intro <;> linarith
  have other : (1 : ℚ) / 2 ≤ rest / denominator ↔ denominator ≤ 2 * rest := by
    rw [le_div_iff₀ denominator_pos, ← Nat.cast_le (α := ℚ)]
    push_cast
    constructor <;> intro <;> linarith
  have nonneg : (0 : ℚ) ≤ rest / denominator := by positivity
  have below : (rest : ℚ) / denominator < 1 := by
    rw [div_lt_one denominator_pos]
    exact Nat.cast_lt.mpr less
  rw [split, abs_le]
  by_cases low : 2 * rest < denominator
  · rw [if_pos low]
    have := half.mpr low.le
    constructor <;> linarith
  · by_cases high : denominator < 2 * rest
    · rw [if_neg low, if_pos high]
      have := other.mpr high.le
      push_cast
      constructor <;> linarith
    · rw [if_neg low, if_neg high]
      have := half.mpr (Nat.not_lt.mp high)
      have := other.mpr (Nat.not_lt.mp low)
      have parity : ((whole % 2 : Nat) : ℚ) = 0 ∨ ((whole % 2 : Nat) : ℚ) = 1 := by
        rcases Nat.mod_two_eq_zero_or_one whole with even | odd
        · exact Or.inl (by rw [even]; rfl)
        · exact Or.inr (by rw [odd]; rfl)
      rw [Nat.cast_add]
      rcases parity with even | odd
      · constructor <;> linarith
      · constructor <;> linarith

/-- The logarithm of a ratio is the difference of the logarithms, or one less. -/
theorem place_eq_log {base high low : Nat} (proper : 1 < base)
    (topLeast : base ^ high ≤ numerator) (topMost : numerator < base ^ (high + 1))
    (bottomLeast : base ^ low ≤ denominator) (bottomMost : denominator < base ^ (low + 1)) :
    (if denominator * Nat.pow base ((high : ℤ) - low).toNat ≤
        numerator * Nat.pow base (-((high : ℤ) - low)).toNat
      then (high : ℤ) - low else (high : ℤ) - low - 1) =
      Int.log base ((numerator : ℚ) / denominator) := by
  have base_pos : 0 < base := by omega
  have base_ne : (base : ℚ) ≠ 0 := Nat.cast_ne_zero.mpr base_pos.ne'
  have top : 0 < numerator := (Nat.pow_pos base_pos).trans_le topLeast
  have bottom : 0 < denominator := (Nat.pow_pos base_pos).trans_le bottomLeast
  have ratio_pos : (0 : ℚ) < numerator / denominator := by positivity
  have test : denominator * Nat.pow base ((high : ℤ) - low).toNat ≤
      numerator * Nat.pow base (-((high : ℤ) - low)).toNat ↔
        (high : ℤ) - low ≤ Int.log base ((numerator : ℚ) / denominator) := by
    rw [← Int.zpow_le_iff_le_log proper ratio_pos, ← pow_div_pow,
      div_le_div_iff₀ (by simp [base_pos]) (by positivity), mul_comm, ← Nat.cast_mul,
      ← Nat.cast_mul, Nat.cast_le]
  have quotient : ∀ first second : ℕ,
      (base : ℚ) ^ ((first : ℤ) - second) = ((base ^ first : ℕ) : ℚ) / (base ^ second : ℕ) := by
    intro first second
    rw [zpow_sub₀ base_ne, zpow_natCast, zpow_natCast, Nat.cast_pow, Nat.cast_pow]
  have least : (high : ℤ) - low - 1 ≤ Int.log base ((numerator : ℚ) / denominator) := by
    have split : (high : ℤ) - low - 1 = high - ((low + 1 : ℕ) : ℤ) := by omega
    rw [← Int.zpow_le_iff_le_log proper ratio_pos, split, quotient]
    gcongr
  have most : Int.log base ((numerator : ℚ) / denominator) < (high : ℤ) - low + 1 := by
    have split : (high : ℤ) - low + 1 = ((high + 1 : ℕ) : ℤ) - low := by omega
    rw [← Int.lt_zpow_iff_log_lt proper ratio_pos, split, quotient]
    gcongr
  split
  · next reached =>
    have := test.mp reached
    omega
  · next missed =>
    have := test.not.mp missed
    omega

/-- The place of a ratio is its binary logarithm. -/
theorem binaryPlace_eq_log (top : 0 < numerator) (bottom : 0 < denominator) :
    binaryPlace numerator denominator = Int.log 2 ((numerator : ℚ) / denominator) :=
  place_eq_log one_lt_two (Nat.log2_self_le top.ne') Nat.lt_log2_self
    (Nat.log2_self_le bottom.ne') Nat.lt_log2_self

theorem pow_mul_unit (power place : Nat) :
    2 ^ power * unit place = ((2 : ℕ) : ℚ) ^ ((power : ℤ) + (place - 1074)) := by
  rw [unit, Nat.cast_two, zpow_add₀ two_ne_zero, zpow_natCast]

/-- **The nearest magnitude is so many units in the place of a ratio.** -/
theorem rounds_nearest (top : 0 < numerator) (bottom : 0 < denominator) :
    ∃ place units, nearest numerator denominator = place * step + units ∧
      Rounds ((numerator : ℚ) / denominator) place units := by
  have ratio_pos : (0 : ℚ) < numerator / denominator := by positivity
  have logarithm := binaryPlace_eq_log top bottom
  obtain ⟨place, at_place⟩ : ∃ place : ℕ,
      max (binaryPlace numerator denominator - 52) (-1074) = (place : ℤ) - 1074 :=
    ⟨(max (binaryPlace numerator denominator - 52) (-1074) + 1074).toNat, by omega⟩
  have back : ((place : ℤ) - 1074 + 1074).toNat = place := by omega
  have positive : 0 < denominator * Nat.pow 2 ((place : ℤ) - 1074).toNat :=
    Nat.mul_pos bottom (Nat.pow_pos two_pos)
  have rounded : nearest numerator denominator = place * step +
      roundHalfEven (numerator * Nat.pow 2 (-((place : ℤ) - 1074)).toNat)
        (denominator * Nat.pow 2 ((place : ℤ) - 1074).toNat) := by
    unfold nearest
    rw [if_neg top.ne', at_place]
    dsimp only [twoTo]
    rw [back]
  have near := roundHalfEven_near (numerator * Nat.pow 2 (-((place : ℤ) - 1074)).toNat) positive
  rw [div_mul_pow] at near
  generalize roundHalfEven _ _ = units at rounded near
  refine ⟨place, units, rounded, ?_, ?_, ?_⟩
  · by_cases first : place = 0
    · exact Or.inl first
    · rw [pow_mul_unit, Int.zpow_le_iff_le_log one_lt_two ratio_pos]
      exact Or.inr (by omega)
  · rw [pow_mul_unit, Int.lt_zpow_iff_log_lt one_lt_two ratio_pos]
    omega
  · have unit_ne := (unit_pos place).ne'
    have split : (numerator : ℚ) / denominator - units * unit place =
        ((numerator : ℚ) / denominator / unit place - units) * unit place := by
      field_simp
    have scaled : unit place = ((2 : ℕ) : ℚ) ^ ((place : ℤ) - 1074) := rfl
    rw [← scaled] at near
    rw [split, abs_mul, abs_of_pos (unit_pos place)]
    linarith [mul_le_mul_of_nonneg_right near (unit_pos place).le]

theorem roundHalfEven_mul (numerator denominator : Nat) {factor : Nat} (positive : 0 < factor) :
    roundHalfEven (numerator * factor) (denominator * factor) =
      roundHalfEven numerator denominator := by
  have less : ∀ first second : Nat, first * factor < second * factor ↔ first < second :=
    fun _ _ => Nat.mul_lt_mul_right positive
  unfold roundHalfEven
  simp only [Nat.mul_div_mul_right _ _ positive, Nat.mul_mod_mul_right, ← Nat.mul_assoc, less]

theorem nearest_mul (top : 0 < numerator) (bottom : 0 < denominator) {factor : Nat}
    (positive : 0 < factor) :
    nearest (numerator * factor) (denominator * factor) = nearest numerator denominator := by
  have same : binaryPlace (numerator * factor) (denominator * factor) =
      binaryPlace numerator denominator := by
    rw [binaryPlace_eq_log (Nat.mul_pos top positive) (Nat.mul_pos bottom positive),
      binaryPlace_eq_log top bottom, Nat.cast_mul, Nat.cast_mul,
      mul_div_mul_right _ _ (Nat.cast_ne_zero.mpr positive.ne')]
  unfold nearest
  rw [if_neg (Nat.mul_pos top positive).ne', if_neg top.ne', same]
  dsimp only
  rw [Nat.mul_right_comm numerator, Nat.mul_right_comm denominator, roundHalfEven_mul _ _ positive]

/-- **What is nearest depends on the ratio alone.** -/
theorem nearest_congr {top bottom other under : Nat} (positive : 0 < top) (bottom_pos : 0 < bottom)
    (under_pos : 0 < under) (same : (top : ℚ) / bottom = (other : ℚ) / under) :
    nearest top bottom = nearest other under := by
  have cross : top * under = other * bottom := by
    have bottom_ne : (bottom : ℚ) ≠ 0 := Nat.cast_ne_zero.mpr bottom_pos.ne'
    have under_ne : (under : ℚ) ≠ 0 := Nat.cast_ne_zero.mpr under_pos.ne'
    rw [div_eq_div_iff bottom_ne under_ne] at same
    exact_mod_cast same
  have other_pos : 0 < other := by
    refine Nat.pos_of_ne_zero ?_
    rintro rfl
    rw [Nat.zero_mul] at cross
    exact (Nat.mul_pos positive under_pos).ne' cross
  rw [← nearest_mul positive bottom_pos under_pos, cross, Nat.mul_comm bottom under,
    nearest_mul other_pos under_pos bottom_pos]

namespace Rounds

variable (rounds : Rounds x place units)
include rounds

/-- There are no more units than lead to the next place. -/
theorem units_le : units ≤ 2 ^ 53 := by
  have positive := unit_pos place
  have scaled : (units : ℚ) * unit place < ((2 ^ 53 + 1 : ℕ) : ℚ) * unit place := by
    obtain ⟨least, -⟩ := abs_le.mp rounds.near
    have below := rounds.below
    push_cast
    linarith
  exact Nat.lt_succ_iff.mp (Nat.cast_lt.mp (lt_of_mul_lt_mul_right scaled positive.le))

/-- There are enough units for the place. -/
theorem least : place = 0 ∨ 2 ^ 52 ≤ units := by
  refine rounds.above.imp_right fun above => ?_
  have positive := unit_pos place
  have scaled : ((2 ^ 52 : ℕ) : ℚ) * unit place < ((units + 1 : ℕ) : ℚ) * unit place := by
    obtain ⟨-, most⟩ := abs_le.mp rounds.near
    push_cast
    linarith
  exact Nat.lt_succ_iff.mp (Nat.cast_lt.mp (lt_of_mul_lt_mul_right scaled positive.le))

theorem value_eq : value (place * step + units) = units * unit place :=
  value_units rounds.units_le rounds.least

end Rounds

/-- Units that are less than one apart are the same. -/
theorem units_eq (place : Nat) {first second : Nat}
    (near : |(first : ℚ) * unit place - second * unit place| < unit place) : first = second := by
  have positive := unit_pos place
  rw [← sub_mul, abs_mul, abs_of_pos positive] at near
  have apart : |((first : ℤ) - second : ℤ)| < 1 := by
    have less : |(first : ℚ) - second| < 1 := by
      refine lt_of_mul_lt_mul_right ?_ positive.le
      rwa [one_mul]
    exact_mod_cast less
  have := Int.abs_lt_one_iff.mp apart
  omega

/-- **A whole number of units is kept**, if it has few enough binary digits. -/
theorem value_nearest_of_units (top : 0 < numerator) (bottom : 0 < denominator) {few : Nat}
    (short : few < 2 ^ 53) (exact : (numerator : ℚ) / denominator = few * unit place) :
    value (nearest numerator denominator) = (numerator : ℚ) / denominator := by
  obtain ⟨here, units, rounded, rounds⟩ := rounds_nearest top bottom
  have place_le : here ≤ place := by
    rcases rounds.above with rfl | above
    · exact Nat.zero_le place
    · by_contra less
      have double := two_unit_le (Nat.not_le.mp less)
      have few_lt : (few : ℚ) * unit place < 2 ^ 53 * unit place :=
        mul_lt_mul_of_pos_right (by exact_mod_cast short) (unit_pos place)
      rw [exact] at above
      linarith
  have multiple : unit place = ((2 ^ (place - here) : ℕ) : ℚ) * unit here := by
    rw [Nat.cast_pow, Nat.cast_two, pow_mul_unit, unit, Nat.cast_two]
    congr 1
    omega
  have same : units = few * 2 ^ (place - here) := by
    refine (units_eq here ?_).symm
    rw [Nat.cast_mul, mul_assoc, ← multiple, ← exact]
    exact rounds.near.trans_lt (half_lt_self (unit_pos here))
  rw [rounded, rounds.value_eq, same, exact, multiple, Nat.cast_mul, mul_assoc]

/-- What lies close to units is less than half a unit away. -/
theorem near_of_close {held : Nat} (few : held < 2 ^ 53)
    (close : |x - held * unit place| < held * unit place / 2 ^ 54) :
    |x - held * unit place| < unit place / 2 := by
  have held_le : (held : ℚ) ≤ 2 ^ 53 := by exact_mod_cast few.le
  have := mul_le_mul_of_nonneg_right held_le (unit_pos place).le
  linarith

/-- What lies close to units, but in a lower place, is rounded up to them: they are a power of two,
and it lies right below. -/
theorem Rounds.of_lower {own held : Nat} (rounds : Rounds x place units) (lower : place < own)
    (few : held < 2 ^ 53) (enough : 2 ^ 52 ≤ held)
    (close : |x - held * unit own| < held * unit own / 2 ^ 54) :
    held = 2 ^ 52 ∧ own = place + 1 ∧ units = 2 ^ 53 := by
  have own_pos := unit_pos own
  have place_pos := unit_pos place
  have double := two_unit_le lower
  have below := rounds.below
  have exact : held = 2 ^ 52 := by
    by_contra other
    obtain ⟨near, -⟩ := abs_lt.mp (near_of_close few close)
    have more : (2 ^ 52 : ℚ) + 1 ≤ held := by
      exact_mod_cast Nat.lt_of_le_of_ne enough (Ne.symm other)
    have := mul_le_mul_of_nonneg_right more own_pos.le
    linarith
  subst exact
  obtain ⟨near, -⟩ := abs_lt.mp close
  push_cast at near
  have next : own = place + 1 := by
    by_contra other
    have farther : 2 * unit (place + 1) ≤ unit own := two_unit_le (by omega)
    rw [unit_succ] at farther
    linarith
  subst next
  rw [unit_succ] at near
  refine ⟨rfl, rfl, units_eq place ?_⟩
  obtain ⟨least, most⟩ := abs_le.mp rounds.near
  push_cast
  rw [abs_lt]
  constructor <;> linarith

/-- **Whatever lies close to a magnitude is rounded to it.** -/
theorem nearest_of_close (top : 0 < numerator) (bottom : 0 < denominator)
    (close : |(numerator : ℚ) / denominator - value magnitude| < value magnitude / 2 ^ 54) :
    nearest numerator denominator = magnitude := by
  obtain ⟨own, held, rfl, few, enough⟩ := exists_units magnitude
  obtain ⟨place, units, rounded, rounds⟩ := rounds_nearest top bottom
  rw [value_units few.le enough] at close
  generalize (numerator : ℚ) / denominator = x at close rounds
  rw [rounded]
  obtain ⟨least, most⟩ := abs_lt.mp (near_of_close few close)
  rcases lt_trichotomy place own with lower | rfl | higher
  · obtain ⟨rfl, rfl, rfl⟩ := rounds.of_lower lower few (enough.resolve_left (by omega)) close
    have step_eq : step = 2 ^ 52 := rfl
    rw [step_eq]
    omega
  · have same : units = held := by
      refine units_eq place ?_
      obtain ⟨unitsLeast, unitsMost⟩ := abs_le.mp rounds.near
      rw [abs_lt]
      constructor <;> linarith
    rw [same]
  · have above := rounds.above.resolve_left (by omega)
    have double := two_unit_le higher
    have held_le : (held : ℚ) + 1 ≤ 2 ^ 53 := by exact_mod_cast few
    have := mul_le_mul_of_nonneg_right held_le (unit_pos own).le
    linarith

/-! ### The range -/

@[simp]
theorem value_zero : value 0 = 0 := by
  have zero := value_units (Nat.zero_le (2 ^ 53)) (Or.inl (Eq.refl 0))
  simpa using zero

/-- Whole numbers lie far above the first power of two. -/
theorem rounds_ofNat {n : Nat} (positive : 0 < n) :
    ∃ place units, ofNat n = place * step + units ∧ Rounds n place units ∧
      2 ^ 52 * unit place ≤ n := by
  obtain ⟨place, units, rounded, rounds⟩ := rounds_nearest positive one_pos
  rw [Nat.cast_one, div_one] at rounds
  refine ⟨place, units, rounded, rounds, rounds.above.resolve_left ?_⟩
  rintro rfl
  have below := rounds.below
  have small : unit 0 ≤ unit 1021 := unit_le (by omega)
  have one : 2 ^ 53 * unit 1021 = 1 := by
    rw [pow_mul_unit]
    norm_num
  have one_le : (1 : ℚ) ≤ n := by exact_mod_cast positive
  linarith

theorem ofNat_pos {n : Nat} (positive : 0 < n) : 0 < ofNat n := by
  obtain ⟨place, units, rounded, rounds, above⟩ := rounds_ofNat positive
  rw [rounded]
  rcases rounds.least with rfl | enough
  · refine Nat.pos_of_ne_zero fun zero => ?_
    have none : units = 0 := by omega
    have near := rounds.near
    have least := unit_pos 0
    rw [none, Nat.cast_zero, zero_mul, sub_zero, abs_of_nonneg (Nat.cast_nonneg n)] at near
    linarith
  · omega

/-- **To round a whole number adds very little.** -/
theorem value_ofNat_le (n : Nat) : value (ofNat n) * 2 ^ 53 ≤ n * (2 ^ 53 + 1) := by
  rcases Nat.eq_zero_or_pos n with rfl | positive
  · simp [ofNat, nearest]
  · obtain ⟨place, units, rounded, rounds, above⟩ := rounds_ofNat positive
    obtain ⟨near, -⟩ := abs_le.mp rounds.near
    rw [rounded, rounds.value_eq]
    linarith

/-- **What lies below the last midpoint is in range.** -/
theorem nearest_lt_infinite (top : 0 < numerator) (bottom : 0 < denominator)
    (below : (numerator : ℚ) / denominator < (2 ^ 53 - 1 / 2) * unit 2045) :
    nearest numerator denominator < infinite := by
  obtain ⟨place, units, rounded, rounds⟩ := rounds_nearest top bottom
  have step_eq : step = 2 ^ 52 := rfl
  have last_pos := unit_pos 2045
  rw [rounded, infinite, step_eq]
  rcases lt_trichotomy place 2045 with lower | rfl | higher
  · have := rounds.units_le
    omega
  · have few : units < 2 ^ 53 := by
      obtain ⟨near, -⟩ := abs_le.mp rounds.near
      have scaled : (units : ℚ) * unit 2045 < ((2 ^ 53 : ℕ) : ℚ) * unit 2045 := by
        push_cast
        linarith
      exact Nat.cast_lt.mp (lt_of_mul_lt_mul_right scaled last_pos.le)
    omega
  · have above := rounds.above.resolve_left (by omega)
    have double := two_unit_le higher
    linarith

/-- **What is rounded into the range lies below a midpoint**, and the further below the more
magnitudes follow. -/
theorem ratio_le_of_nearest_lt (top : 0 < numerator) (bottom : 0 < denominator) {more : Nat}
    (few : more < 2 ^ 52) (range : nearest numerator denominator + more < infinite) :
    (numerator : ℚ) / denominator ≤ (2 ^ 53 - more - 1 / 2) * unit 2045 := by
  obtain ⟨place, units, rounded, rounds⟩ := rounds_nearest top bottom
  have step_eq : step = 2 ^ 52 := rfl
  have least := rounds.least
  have last_pos := unit_pos 2045
  rw [rounded, infinite, step_eq] at range
  rcases lt_trichotomy place 2045 with lower | rfl | higher
  · have below := rounds.below
    have double := two_unit_le lower
    have room : (2 ^ 52 : ℚ) ≤ 2 ^ 53 - more - 1 / 2 := by
      have : (more : ℚ) + 1 ≤ 2 ^ 52 := by exact_mod_cast few
      linarith
    have := mul_le_mul_of_nonneg_right room last_pos.le
    linarith
  · obtain ⟨-, near⟩ := abs_le.mp rounds.near
    have room : (units : ℚ) + more + 1 ≤ 2 ^ 53 := by
      have : units + more + 1 ≤ 2 ^ 53 := by omega
      exact_mod_cast this
    have := mul_le_mul_of_nonneg_right room last_pos.le
    linarith
  · omega

end TouchDispatch.Number.Binary64
