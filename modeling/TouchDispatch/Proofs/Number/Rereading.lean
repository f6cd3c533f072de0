/-
**What a reader makes of the digits that are printed.**

The reader multiplies or divides the rounded digits by a rounded power of ten and rounds once more,
so it may miss the number that the digits stand for.

* `scale_of_exact`: it does not if the digits and the power of ten are magnitudes themselves;
* `scale_isSome_of_shortest`: **it always comes to a number**, however great the one was that was
  printed;
* `finite_of_ofDecimal`: and that number is in range;
* `Layout.written`, `Layout.reread`: the digits and the exponent of ten in a text, and the number
  that the reader makes of them;
* `Layout.Steady`, `Layout.steady_of_plain`: **a number of at most fifteen digits and a moderate
  exponent is read back**, unless it has sixteen places before its point.
-/

import TouchDispatch.Proofs.Number.Printing

namespace TouchDispatch.Number

open TouchDispatch.Text

namespace Binary64

variable {magnitude first second significand : Nat} {exponent : ℤ}

/-! ### One operation -/

theorem product_ratio (first second : Nat) :
    (((ratio first).1 * (ratio second).1 : Nat) : ℚ) / ((ratio first).2 * (ratio second).2 : Nat) =
      value first * value second := by
  unfold value
  rw [Nat.cast_mul, Nat.cast_mul, div_mul_div_comm]

theorem quotient_ratio (first second : Nat) :
    (((ratio first).1 * (ratio second).2 : Nat) : ℚ) / ((ratio first).2 * (ratio second).1 : Nat) =
      value first / value second := by
  unfold value
  rw [Nat.cast_mul, Nat.cast_mul, div_div_div_eq]

/-- To divide by a power of ten never fails. -/
theorem scale_isSome_of_negative (down : exponent < 0) :
    (scale magnitude exponent).isSome = true := by
  fun_induction scale magnitude exponent with
  | case1 | case2 => omega
  | case3 => rfl
  | case4 => rfl
  | case5 => omega
  | case6 magnitude exponent far some up ih =>
    refine ih ?_
    simp only [greatestTen] at far ⊢
    omega

/-- **A whole number of few binary digits, and zeros after them, is a magnitude.** -/
theorem value_ofNat_of_short {few power : Nat} (positive : 0 < few) (short : few < 2 ^ 53) :
    value (ofNat (few * 2 ^ power)) = (few * 2 ^ power : Nat) := by
  have unit_eq : unit (1074 + power) = 2 ^ power := by
    rw [unit, ← zpow_natCast]
    congr 1
    omega
  have exact : ((few * 2 ^ power : Nat) : ℚ) / (1 : Nat) = few * unit (1074 + power) := by
    rw [unit_eq]
    push_cast
    ring
  have kept := value_nearest_of_units (Nat.mul_pos positive (Nat.two_pow_pos power)) one_pos short
    exact
  rwa [Nat.cast_one, div_one] at kept

/-- The small powers of ten are magnitudes. -/
theorem value_powerOfTen {power : Nat} (small : power ≤ 22) :
    value (powerOfTen power) = 10 ^ power := by
  have short : 5 ^ power < 2 ^ 53 :=
    (Nat.pow_le_pow_right (by decide) small).trans_lt (by decide)
  have split : Nat.pow 10 power = 5 ^ power * 2 ^ power := by
    rw [Nat.pow_eq, ← Nat.mul_pow]
  have kept := @value_ofNat_of_short _ power (Nat.pow_pos (by decide)) short
  rw [powerOfTen, split, kept, ← Nat.mul_pow]
  push_cast
  rfl

theorem powerOfTen_ratio_pos (power : Nat) :
    0 < (ratio (powerOfTen power)).1 ∧ 0 < (ratio (powerOfTen power)).2 :=
  ratio_pos (ofNat_pos (Nat.pow_pos (by decide)))

/-- **One operation on magnitudes rounds once.** -/
theorem scale_of_exact (positive : 0 < significand)
    (exact : value (ofNat significand) = significand) (moderate : exponent.natAbs ≤ 22)
    (range : nearestDecimal significand exponent < infinite) :
    scale (ofNat significand) exponent = some (nearestDecimal significand exponent) := by
  have table : exponent.natAbs ≤ greatestTen := moderate.trans (by decide)
  have tens := value_powerOfTen moderate
  obtain ⟨top, bottom⟩ := ratio_pos (ofNat_pos positive)
  obtain ⟨tenTop, tenBottom⟩ := powerOfTen_ratio_pos exponent.natAbs
  rw [scale, if_pos table]
  by_cases up : 0 ≤ exponent
  · have same : product (ofNat significand) (powerOfTen exponent.natAbs) =
        nearestDecimal significand exponent := by
      refine nearest_congr (Nat.mul_pos top tenTop) (Nat.mul_pos bottom tenBottom)
        (tenTo_pos _).2 ?_
      rw [product_ratio, decimal_eq, exact, tens, ← zpow_natCast, Int.natAbs_of_nonneg up]
    rw [if_pos up, same]
    exact if_pos range
  · have same : quotient (ofNat significand) (powerOfTen exponent.natAbs) =
        nearestDecimal significand exponent := by
      refine nearest_congr (Nat.mul_pos top tenBottom) (Nat.mul_pos bottom tenTop)
        (tenTo_pos _).2 ?_
      have back : exponent = -(exponent.natAbs : ℤ) := by omega
      rw [quotient_ratio, decimal_eq, exact, tens]
      conv_rhs => rw [back, zpow_neg, zpow_natCast]
      rw [div_eq_mul_inv]
    rw [if_neg up, same]

/-! ### The greatest numbers -/

/-- The greatest numbers have three hundred and nine digits. -/
theorem decimalPlace_greatest {back : Nat} (near : back < 2) :
    decimalPlace (ratio (infinite - 1 - back)).1 (ratio (infinite - 1 - back)).2 = 308 := by
  have bounds : ∀ back < 2, 0 < infinite - 1 - back ∧
      Nat.ble (Nat.pow 10 308) (ratio (infinite - 1 - back)).1 = true ∧
      Nat.ble (Nat.pow 10 309) (ratio (infinite - 1 - back)).1 = false ∧
      (ratio (infinite - 1 - back)).2 = 1 := by
    decide +kernel
  obtain ⟨positive, least, most, whole⟩ := bounds back near
  have value_positive := value_pos positive
  rw [decimalPlace_eq_log positive]
  generalize infinite - 1 - back = magnitude at *
  have value_eq : value magnitude = (ratio magnitude).1 := by
    rw [value, whole, Nat.cast_one, div_one]
  have reaches : ∀ power : ℕ, (power : ℤ) ≤ Int.log 10 (value magnitude) ↔
      Nat.ble (Nat.pow 10 power) (ratio magnitude).1 = true := by
    intro power
    rw [← Int.zpow_le_iff_le_log (by decide) value_positive, value_eq, zpow_natCast, ← Nat.cast_pow,
      Nat.cast_le, Nat.ble_eq, Nat.pow_eq]
  rw [← reaches 308] at least
  rw [← Bool.not_eq_true, ← reaches 309] at most
  omega

/-- Of the greatest numbers the digits are read one by one. -/
theorem scale_isSome_of_greatest {back : Nat} (near : back < 2) :
    (scale (ofNat (shortest (infinite - 1 - back)).1)
      (shortest (infinite - 1 - back)).2).isSome = true := by
  have place := decimalPlace_greatest near
  unfold shortest
  rw [place]
  clear place
  revert back
  decide +kernel

/-- The last midpoint lies below a power of ten. -/
theorem midpoint_lt : (2 ^ 53 - 1 / 2) * unit 2045 < 10 ^ 309 := by
  have power : (2 : ℚ) ^ 53 * unit 2045 = 2 * (2 ^ 93) ^ 11 := by
    rw [pow_mul_unit, ← pow_mul, ← zpow_natCast, Nat.cast_two, ← zpow_one_add₀ two_ne_zero]
    congr 1
  have less : (2 ^ 93 : ℚ) ≤ 10 ^ 28 := by norm_num
  have tens_pos : (0 : ℚ) < (10 ^ 28) ^ 11 := pow_pos (pow_pos (by norm_num) 28) 11
  calc (2 ^ 53 - 1 / 2) * unit 2045
      < 2 ^ 53 * unit 2045 := mul_lt_mul_of_pos_right (by norm_num) (unit_pos 2045)
    _ = 2 * (2 ^ 93) ^ 11 := power
    _ ≤ 2 * (10 ^ 28) ^ 11 :=
      mul_le_mul_of_nonneg_left (pow_le_pow_left₀ (pow_pos two_pos 93).le less 11) zero_le_two
    _ < 10 * (10 ^ 28) ^ 11 := mul_lt_mul_of_pos_right (by norm_num) tens_pos
    _ = 10 ^ 309 := by rw [← pow_mul, ← pow_succ']

/-- What is nearest to a decimal bounds the decimal on both sides. -/
theorem decimal_bounds (some : 0 < significand) (positive : 0 < nearestDecimal significand exponent)
    (finite : nearestDecimal significand exponent < infinite) :
    (10 : ℚ) ^ (-1075 : ℤ) ≤ significand * 10 ^ exponent ∧
      (significand : ℚ) * 10 ^ exponent < 10 ^ 309 := by
  have top := Nat.mul_pos some (tenTo_pos exponent).1
  have bottom := (tenTo_pos exponent).2
  constructor
  · obtain ⟨place, units, rounded, rounds⟩ := rounds_nearest top bottom
    rw [nearestDecimal, rounded] at positive
    rw [decimal_eq] at rounds
    have least_pos := unit_pos 0
    have half : (10 : ℚ) ^ (-1075 : ℤ) ≤ unit 0 / 2 := by
      have halved : unit 0 / 2 = 2 ^ (-1075 : ℤ) := by
        rw [unit, div_eq_iff two_ne_zero, ← zpow_add_one₀ two_ne_zero]
        rfl
      rw [halved, zpow_neg, zpow_neg, inv_le_inv₀ (by positivity) (by positivity)]
      exact zpow_le_zpow_left₀ (by norm_num) (by norm_num) (by norm_num)
    refine half.trans ?_
    rcases rounds.above with rfl | above
    · obtain ⟨near, -⟩ := abs_le.mp rounds.near
      have one_le : (1 : ℚ) ≤ units := by
        have : 1 ≤ units := by omega
        exact_mod_cast this
      have := mul_le_mul_of_nonneg_right one_le least_pos.le
      linarith
    · have := unit_le (Nat.zero_le place)
      linarith
  · have room : nearest (significand * (tenTo exponent).1) (tenTo exponent).2 + 0 < infinite :=
      finite
    have below := ratio_le_of_nearest_lt top bottom (by decide) room
    rw [decimal_eq, Nat.cast_zero, sub_zero] at below
    exact below.trans_lt midpoint_lt

/-- A power of ten that a decimal in range is multiplied by is in the table. -/
theorem exponent_le (some : 0 < significand) {power : Nat}
    (below : (significand : ℚ) * 10 ^ power < 10 ^ 309) : power ≤ greatestTen := by
  have one_le : (1 : ℚ) ≤ significand := by exact_mod_cast some
  have tens_pos : (0 : ℚ) < 10 ^ power := pow_pos (by norm_num) power
  have less : (10 : ℚ) ^ power < 10 ^ 309 :=
    (le_mul_of_one_le_left tens_pos.le one_le).trans_lt below
  exact Nat.lt_succ_iff.mp ((pow_lt_pow_iff_right₀ (by norm_num)).mp less)

/-- **Two whole numbers with a product well below the last midpoint have a product in range** after
each of them was rounded. -/
theorem product_lt_infinite (some : 0 < significand) {power : Nat}
    (below : (significand : ℚ) * 10 ^ power ≤ (2 ^ 53 - 2 - 1 / 2) * unit 2045) :
    product (ofNat significand) (powerOfTen power) < infinite := by
  have last_pos := unit_pos 2045
  obtain ⟨top, bottom⟩ := ratio_pos (ofNat_pos some)
  obtain ⟨tenTop, tenBottom⟩ := powerOfTen_ratio_pos power
  refine nearest_lt_infinite (Nat.mul_pos top tenTop) (Nat.mul_pos bottom tenBottom) ?_
  rw [product_ratio, powerOfTen, Nat.pow_eq]
  have first := value_ofNat_le significand
  have second := value_ofNat_le (10 ^ power)
  rw [Nat.cast_pow, Nat.cast_ofNat] at second
  have second_nonneg : 0 ≤ value (ofNat (10 ^ power)) * 2 ^ 53 := by
    unfold value
    positivity
  have both := mul_le_mul first second second_nonneg (by positivity)
  linarith

/-- **To multiply the digits that are printed by a power of ten never fails**, although the rounded
digits and the rounded power may both be too great. -/
theorem scale_isSome_of_shortest (positive : 0 < magnitude) (finite : magnitude < infinite)
    (up : 0 ≤ (shortest magnitude).2) :
    (scale (ofNat (shortest magnitude).1) (shortest magnitude).2).isSome = true := by
  obtain ⟨some, -, closest⟩ := shortest_spec positive
  by_cases greatest : infinite ≤ magnitude + 2
  · -- The last two magnitudes lie too near to the last midpoint for the estimate below.
    obtain ⟨back, near, rfl⟩ : ∃ back < 2, magnitude = infinite - 1 - back :=
      ⟨infinite - 1 - magnitude, by omega, by omega⟩
    exact scale_isSome_of_greatest near
  · generalize (shortest magnitude).1 = significand at some closest
    generalize (shortest magnitude).2 = exponent at up closest
    lift exponent to ℕ using up
    have few : exponent ≤ greatestTen := by
      obtain ⟨-, upper⟩ := decimal_bounds some (closest ▸ positive) (closest ▸ finite)
      exact exponent_le some upper
    have inRange : product (ofNat significand) (powerOfTen exponent) < infinite := by
      have range :
          nearest (significand * (tenTo exponent).1) (tenTo exponent).2 + 2 < infinite := by
        rw [← nearestDecimal, closest]
        omega
      have below := ratio_le_of_nearest_lt (Nat.mul_pos some (tenTo_pos _).1) (tenTo_pos _).2
        (by decide) range
      rw [decimal_eq, zpow_natCast] at below
      exact product_lt_infinite some below
    rw [scale, if_pos (show (exponent : ℤ).natAbs ≤ greatestTen from few), if_pos (by omega)]
    show (if product (ofNat significand) (powerOfTen exponent) < infinite then
      Option.some (product (ofNat significand) (powerOfTen exponent)) else none).isSome = true
    rw [if_pos inRange]
    rfl

/-! ### Results in range -/

/-- A number that is no infinity. -/
def Finite (number : Binary64) : Prop :=
  number.magnitude < infinite

theorem value_le_of_finite (finite : magnitude < infinite) :
    value magnitude ≤ (2 ^ 53 - 1) * unit 2045 := by
  obtain ⟨place, units, rfl, few, least⟩ := exists_units magnitude
  have step_eq : step = 2 ^ 52 := rfl
  have last_pos := unit_pos 2045
  have units_le : (units : ℚ) + 1 ≤ 2 ^ 53 := by exact_mod_cast few
  rw [infinite, step_eq] at finite
  rw [value_units few.le least]
  rcases lt_trichotomy place 2045 with lower | rfl | higher
  · have double := two_unit_le lower
    have := mul_le_mul_of_nonneg_right units_le (unit_pos place).le
    have := unit_pos place
    linarith
  · have := mul_le_mul_of_nonneg_right units_le last_pos.le
    linarith
  · have enough := least.resolve_left (by omega)
    omega

/-- The powers of ten in the table are one or more. -/
theorem one_le_value_powerOfTen (power : Nat) : 1 ≤ value (powerOfTen power) := by
  have tens_pos : 0 < Nat.pow 10 power := Nat.pow_pos (by decide)
  obtain ⟨place, units, rounded, rounds, above⟩ := rounds_ofNat tens_pos
  rcases Nat.eq_zero_or_pos power with rfl | positive
  · rw [value_powerOfTen (by decide), pow_zero]
  · obtain ⟨-, near⟩ := abs_le.mp rounds.near
    have two_le : (2 : ℚ) ≤ (Nat.pow 10 power : ℕ) := by
      have : 10 ^ 1 ≤ 10 ^ power := Nat.pow_le_pow_right (by decide) positive
      rw [Nat.pow_eq]
      exact_mod_cast (show 2 ≤ 10 ^ 1 by decide).trans this
    rw [powerOfTen, rounded, rounds.value_eq]
    linarith

theorem quotient_lt_infinite (finite : magnitude < infinite) (power : Nat) :
    quotient magnitude (powerOfTen power) < infinite := by
  rcases Nat.eq_zero_or_pos magnitude with rfl | positive
  · have zero : (ratio 0).1 * (ratio (powerOfTen power)).2 = 0 := Nat.zero_mul _
    rw [quotient, zero, nearest, if_pos rfl]
    decide
  · obtain ⟨top, bottom⟩ := ratio_pos positive
    obtain ⟨tenTop, tenBottom⟩ := powerOfTen_ratio_pos power
    refine nearest_lt_infinite (Nat.mul_pos top tenBottom) (Nat.mul_pos bottom tenTop) ?_
    rw [quotient_ratio]
    calc value magnitude / value (powerOfTen power)
        ≤ value magnitude :=
          div_le_self (value_pos positive).le (one_le_value_powerOfTen power)
      _ ≤ (2 ^ 53 - 1) * unit 2045 := value_le_of_finite finite
      _ < (2 ^ 53 - 1 / 2) * unit 2045 :=
        mul_lt_mul_of_pos_right (by norm_num) (unit_pos 2045)

theorem ofNat_lt_infinite {n : Nat} (small : n ≤ 2 ^ 64) : ofNat n < infinite := by
  rcases Nat.eq_zero_or_pos n with rfl | positive
  · decide
  · refine nearest_lt_infinite positive one_pos ?_
    have far : unit 1138 ≤ unit 2045 := unit_le (by decide)
    have exact : unit 1138 = 2 ^ 64 := by
      rw [unit, ← zpow_natCast]
      rfl
    have bound : (n : ℚ) ≤ 2 ^ 64 := by exact_mod_cast small
    rw [Nat.cast_one, div_one]
    linarith

theorem scale_lt_infinite {result : Nat} (finite : magnitude < infinite)
    (scaled : scale magnitude exponent = some result) : result < infinite := by
  fun_induction scale magnitude exponent with
  | case1 magnitude exponent near up product range =>
    obtain rfl := Option.some.inj scaled
    exact range
  | case2 => cases scaled
  | case3 magnitude exponent near down =>
    obtain rfl := Option.some.inj scaled
    exact quotient_lt_infinite finite _
  | case4 =>
    obtain rfl := Option.some.inj scaled
    decide
  | case5 => cases scaled
  | case6 magnitude exponent far some down ih =>
    exact ih (quotient_lt_infinite finite _) scaled

/-- **A number that is read is in range.** -/
theorem finite_of_ofDecimal {negative : Bool} {number : Binary64} (small : significand ≤ 2 ^ 64)
    (read : ofDecimal negative significand exponent = some number) : number.Finite := by
  obtain ⟨magnitude, scaled, rfl⟩ := Option.map_eq_some_iff.mp read
  exact scale_lt_infinite (ofNat_lt_infinite small) scaled

end Binary64

/-! ### Texts -/

namespace Layout

open Binary64

/-- The digits in the text of a magnitude, and the exponent of ten that they are read with. A whole
number in positional notation has one zero more, behind its point. -/
def written (layout : Layout) (magnitude : Nat) : Nat × ℤ :=
  let (significand, exponent) := shortest magnitude
  let lead : ℤ := (Decimal.digits significand).length - 1 + exponent
  if (layout.leastPositional ≤ lead ∧ lead ≤ layout.greatestPositional) ∧ 0 ≤ exponent then
    (significand * Nat.pow 10 exponent.toNat * 10, -1)
  else
    (significand, exponent)

/-- The text of a magnitude. -/
def unsigned (layout : Layout) (magnitude : Nat) : List Char :=
  layout.text ⟨false, magnitude⟩

theorem text_eq (layout : Layout) (number : Binary64) : layout.text number =
    if number.negative then '-' :: layout.unsigned number.magnitude
    else layout.unsigned number.magnitude :=
  rfl

/-- The number that a reader makes of the text of a number. -/
def reread (layout : Layout) (number : Binary64) : Binary64 :=
  (ofDecimal number.negative (layout.written number.magnitude).1
    (layout.written number.magnitude).2).getD number

/-- A number that is read back from its text. -/
def Steady (layout : Layout) (number : Binary64) : Prop :=
  layout.reread number = number

instance (layout : Layout) (number : Binary64) : Decidable (layout.Steady number) :=
  inferInstanceAs (Decidable (_ = _))

variable {layout : Layout} {number : Binary64} {magnitude : Nat}

/-- A number of at most fifteen digits and a moderate exponent, which has not just sixteen places
before its point. -/
def Plain (number : Binary64) : Prop :=
  (shortest number.magnitude).1 < 10 ^ 15 ∧ (shortest number.magnitude).2.natAbs ≤ 22 ∧
    ((shortest number.magnitude).1 * Nat.pow 10 (shortest number.magnitude).2.toNat < 10 ^ 15 ∨
      10 ^ 16 ≤ (shortest number.magnitude).1 * Nat.pow 10 (shortest number.magnitude).2.toNat)

instance (number : Binary64) : Decidable (Plain number) :=
  inferInstanceAs (Decidable (_ ∧ _))

/-- **A reader makes a number of every text**, which has the sign of the number. -/
theorem ofDecimal_written (layout : Layout) (finite : number.Finite) :
    ofDecimal number.negative (layout.written number.magnitude).1
      (layout.written number.magnitude).2 = some (layout.reread number) := by
  have read : (scale (ofNat (layout.written number.magnitude).1)
      (layout.written number.magnitude).2).isSome = true := by
    unfold written
    dsimp only
    split
    · exact scale_isSome_of_negative (show (-1 : ℤ) < 0 by decide)
    · by_cases down : (shortest number.magnitude).2 < 0
      · exact scale_isSome_of_negative down
      · rcases Nat.eq_zero_or_pos number.magnitude with zero | positive
        · rw [zero]
          decide +kernel
        · exact scale_isSome_of_shortest positive finite (Int.not_lt.mp down)
  obtain ⟨other, scaled⟩ := Option.isSome_iff_exists.mp read
  unfold reread ofDecimal
  rw [scaled]
  rfl

theorem reread_negative (layout : Layout) (number : Binary64) :
    (layout.reread number).negative = number.negative := by
  unfold reread ofDecimal
  cases scale _ _ with
  | none => rfl
  | some magnitude => rfl

/-- A number that is the same as what is read of it is read back. -/
theorem same_reread_iff : number.same (layout.reread number) = true ↔ layout.Steady number := by
  have sign := layout.reread_negative number
  unfold Steady
  constructor
  · intro alike
    obtain ⟨size, -⟩ := Bool.and_eq_true_iff.mp alike
    rw [beq_iff_eq] at size
    exact congr (congrArg Binary64.mk sign) size.symm
  · intro alike
    rw [alike, same, BEq.rfl, BEq.rfl]
    rfl

/-- The first digit of a number stands at most three hundred and nine places before the point, and
not much more than a thousand behind it. -/
theorem lead_bounds (positive : 0 < magnitude) (finite : magnitude < infinite) :
    ∃ zeros, (Decimal.digits (shortest magnitude).1).length = zeros + 1 ∧
      10 ^ zeros ≤ (shortest magnitude).1 ∧ (shortest magnitude).1 < 10 ^ (zeros + 1) ∧
      -1076 ≤ zeros + (shortest magnitude).2 ∧ zeros + (shortest magnitude).2 ≤ 308 := by
  obtain ⟨some, -, closest⟩ := shortest_spec positive
  obtain ⟨zeros, length, least, most⟩ := Decimal.digits_bounds some
  refine ⟨zeros, length, least, most, ?_⟩
  rw [← closest] at positive finite
  obtain ⟨lower, upper⟩ := decimal_bounds some positive finite
  generalize (shortest magnitude).1 = significand at least most lower upper
  generalize (shortest magnitude).2 = exponent at lower upper
  have tens_pos : (0 : ℚ) < 10 ^ exponent := by positivity
  have powers : ∀ power : ℕ,
      (10 : ℚ) ^ ((power : ℤ) + exponent) = (10 ^ power : ℕ) * 10 ^ exponent := by
    intro power
    rw [zpow_add₀ (by norm_num), zpow_natCast, Nat.cast_pow, Nat.cast_ofNat]
  constructor
  · have less : (10 : ℚ) ^ (-1075 : ℤ) < 10 ^ (((zeros + 1 : ℕ) : ℤ) + exponent) := by
      rw [powers]
      exact lower.trans_lt (mul_lt_mul_of_pos_right (Nat.cast_lt.mpr most) tens_pos)
    have := (zpow_lt_zpow_iff_right₀ (by norm_num)).mp less
    omega
  · have less : (10 : ℚ) ^ ((zeros : ℤ) + exponent) < 10 ^ (309 : ℤ) := by
      rw [powers]
      exact (mul_le_mul_of_nonneg_right (Nat.cast_le.mpr least) tens_pos.le).trans_lt
        (upper.trans_eq (zpow_natCast 10 309).symm)
    have := (zpow_lt_zpow_iff_right₀ (by norm_num)).mp less
    omega

section Bounded

variable (bounded : layout.greatestPositional ≤ 15)
include bounded

/-- A whole number in positional notation has sixteen digits at most. -/
theorem whole_lt (positive : 0 < magnitude) (finite : magnitude < infinite)
    (up : 0 ≤ (shortest magnitude).2)
    (low : ((Decimal.digits (shortest magnitude).1).length : ℤ) - 1 + (shortest magnitude).2 ≤
      layout.greatestPositional) :
    (shortest magnitude).1 * Nat.pow 10 (shortest magnitude).2.toNat < 10 ^ 16 := by
  obtain ⟨zeros, length, -, most, -, -⟩ := lead_bounds positive finite
  rw [length] at low
  have few : zeros + 1 + (shortest magnitude).2.toNat ≤ 16 := by omega
  calc (shortest magnitude).1 * Nat.pow 10 (shortest magnitude).2.toNat
      < 10 ^ (zeros + 1) * 10 ^ (shortest magnitude).2.toNat :=
        Nat.mul_lt_mul_of_pos_right most (Nat.pow_pos (by decide))
    _ = 10 ^ (zeros + 1 + (shortest magnitude).2.toNat) := (Nat.pow_add 10 _ _).symm
    _ ≤ 10 ^ 16 := Nat.pow_le_pow_right (by decide) few

/-- The digits in a text fit in 64 bits. -/
theorem written_le (finite : magnitude < infinite) : (layout.written magnitude).1 ≤ 10 ^ 17 := by
  rcases Nat.eq_zero_or_pos magnitude with rfl | positive
  · unfold written
    dsimp only
    split <;> exact Nat.zero_le _
  · unfold written
    dsimp only
    split
    · next positional =>
      obtain ⟨⟨-, low⟩, up⟩ := positional
      have := whole_lt bounded positive finite up low
      dsimp only
      omega
    · exact (shortest_spec positive).2.1

/-- **A plain number is read back.** Its digits are a magnitude, and so is the power of ten, so that
the one operation of the reader gives the number nearest to them. -/
theorem steady_of_plain (finite : number.Finite) (plain : Plain number) :
    layout.Steady number := by
  obtain ⟨negative, magnitude⟩ := number
  obtain ⟨short, moderate, apart⟩ := plain
  dsimp only at finite short moderate apart
  rcases Nat.eq_zero_or_pos magnitude with rfl | positive
  · unfold Steady reread written
    dsimp only
    split <;> cases negative <;> decide +kernel
  · obtain ⟨some, -, closest⟩ := shortest_spec positive
    have exact : value (ofNat (layout.written magnitude).1) = (layout.written magnitude).1 ∧
        (layout.written magnitude).2.natAbs ≤ 22 ∧ 0 < (layout.written magnitude).1 ∧
        nearestDecimal (layout.written magnitude).1 (layout.written magnitude).2 = magnitude := by
      unfold written
      dsimp only
      split
      · next positional =>
        obtain ⟨⟨-, low⟩, up⟩ := positional
        have less := whole_lt bounded positive finite up low
        have tens_pos : 0 < Nat.pow 10 (shortest magnitude).2.toNat := Nat.pow_pos (by decide)
        have whole_pos := Nat.mul_pos some tens_pos
        generalize at_whole : (shortest magnitude).1 * Nat.pow 10 (shortest magnitude).2.toNat =
          whole at apart less whole_pos ⊢
        have split : whole * 10 = whole * 5 * 2 ^ 1 := by omega
        refine ⟨?_, show (-1 : ℤ).natAbs ≤ 22 by decide, by omega,
          (nearestDecimal_congr (by omega) ?_).trans closest⟩
        · have kept := @value_ofNat_of_short (whole * 5) 1 (by omega) (by omega)
          rw [← split] at kept
          exact kept
        · obtain ⟨power, at_power⟩ := Int.eq_ofNat_of_zero_le up
          rw [at_power, Int.toNat_natCast, Nat.pow_eq] at at_whole
          rw [at_power, ← at_whole, zpow_natCast, zpow_neg_one]
          push_cast
          ring
      · refine ⟨?_, moderate, some, closest⟩
        have kept := @value_ofNat_of_short (shortest magnitude).1 0 some (by omega)
        rwa [Nat.pow_zero, Nat.mul_one] at kept
    obtain ⟨exact, moderate, some, closest⟩ := exact
    unfold Steady reread ofDecimal
    dsimp only
    rw [scale_of_exact some exact moderate (closest.trans_lt finite), closest]
    rfl

end Bounded

end Layout

end TouchDispatch.Number
