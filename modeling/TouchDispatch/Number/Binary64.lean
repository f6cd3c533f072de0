/-
**Finite 64-bit binary floating point in exact arithmetic.**

A finite number is a sign and a magnitude, and a magnitude is numbered by its place in the
increasing sequence of all finite magnitudes, which is also its 63-bit pattern:

* `ratio`: the exact value of a magnitude;
* `nearest`: the magnitude nearest to a ratio, a tie going to the even neighbour;
* `product`, `quotient`: the exact results brought to the nearest magnitude;
* `scale`: a magnitude times a power of ten, the way a decimal reader with one table of powers
  does it: one multiplication or division, so the result may be off by one rounding.
-/

namespace TouchDispatch.Number

/-- A finite 64-bit floating-point number. The two zeros differ in their sign. -/
structure Binary64 where
  negative : Bool
  magnitude : Nat
deriving DecidableEq, Repr

namespace Binary64

/-- The number of magnitudes between two successive powers of two. -/
def step : Nat := Nat.pow 2 52

/-- The first place after the finite magnitudes. -/
def infinite : Nat := 2047 * step

/-- Numbers compare by value: the two zeros are the same. -/
def same (first second : Binary64) : Bool :=
  first.magnitude == second.magnitude &&
    (first.negative == second.negative || first.magnitude == 0)

/-- The exact value of a magnitude as a numerator and a denominator. -/
def ratio (magnitude : Nat) : Nat × Nat :=
  let exponent := magnitude / step
  let fraction := magnitude % step
  if exponent = 0 then (fraction, Nat.pow 2 1074)
  else if exponent < 1075 then (step + fraction, Nat.pow 2 (1075 - exponent))
  else ((step + fraction) * Nat.pow 2 (exponent - 1075), 1)

/-- The whole number nearest to a ratio, a tie going to the even one. -/
def roundHalfEven (numerator denominator : Nat) : Nat :=
  let whole := numerator / denominator
  let rest := numerator % denominator
  if 2 * rest < denominator then whole
  else if denominator < 2 * rest then whole + 1
  else whole + whole % 2

/-- Two to a power that may be negative, as a numerator and a denominator. -/
def twoTo (exponent : Int) : Nat × Nat :=
  (Nat.pow 2 exponent.toNat, Nat.pow 2 (-exponent).toNat)

/-- The exponent of the greatest power of two that is at most the ratio. -/
def binaryPlace (numerator denominator : Nat) : Int :=
  let guess : Int := (numerator.log2 : Int) - (denominator.log2 : Int)
  let (above, below) := twoTo guess
  if denominator * above ≤ numerator * below then guess else guess - 1

/-- The place of the magnitude nearest to a ratio, a tie going to the even one. From `infinite`
on the ratio is out of range. -/
def nearest (numerator denominator : Nat) : Nat :=
  if numerator = 0 then 0
  else
    let unit := max (binaryPlace numerator denominator - 52) (-1074)
    let (above, below) := twoTo unit
    (unit + 1074).toNat * step + roundHalfEven (numerator * below) (denominator * above)

/-- The magnitude nearest to a whole number. -/
def ofNat (n : Nat) : Nat :=
  nearest n 1

/-- The magnitude nearest to the product of two magnitudes. -/
def product (first second : Nat) : Nat :=
  nearest ((ratio first).1 * (ratio second).1) ((ratio first).2 * (ratio second).2)

/-- The magnitude nearest to the quotient of two magnitudes, the second not zero. -/
def quotient (first second : Nat) : Nat :=
  nearest ((ratio first).1 * (ratio second).2) ((ratio first).2 * (ratio second).1)

/-- The magnitude nearest to a power of ten. -/
def powerOfTen (exponent : Nat) : Nat :=
  ofNat (Nat.pow 10 exponent)

/-- The greatest exponent of ten whose power is a finite magnitude. -/
def greatestTen : Nat := 308

/-- A magnitude times a power of ten, by one multiplication or division where the table of powers
of ten reaches, else by dividing with the greatest power first. `none` is out of range. -/
def scale (magnitude : Nat) (exponent : Int) : Option Nat :=
  if exponent.natAbs ≤ greatestTen then
    if 0 ≤ exponent then
      let result := product magnitude (powerOfTen exponent.natAbs)
      if result < infinite then some result else none
    else
      some (quotient magnitude (powerOfTen exponent.natAbs))
  else if magnitude = 0 then
    some 0
  else if 0 ≤ exponent then
    none
  else
    scale (quotient magnitude (powerOfTen greatestTen)) (exponent + greatestTen)
termination_by exponent.natAbs
decreasing_by simp only [greatestTen] at *; omega

/-- The number that a reader makes of a sign, a significand and an exponent of ten. -/
def ofDecimal (negative : Bool) (significand : Nat) (exponent : Int) : Option Binary64 :=
  (scale (ofNat significand) exponent).map fun magnitude => ⟨negative, magnitude⟩

end Binary64

end TouchDispatch.Number
