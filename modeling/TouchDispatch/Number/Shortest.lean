/-
**The shortest decimal text of a 64-bit floating-point number.**

* `shortest`: the fewest digits whose decimal lies nearest to the number among all floating-point
  numbers, and of those the decimal nearest to it;
* `Layout`: where positional notation ends and how an exponent is written;
* `Layout.text`: the text of a number under a layout.
-/

import TouchDispatch.Number.Binary64
import TouchDispatch.Text.Decimal

namespace TouchDispatch.Number

open TouchDispatch.Text

namespace Binary64

/-- Ten to a power that may be negative, as a numerator and a denominator. -/
def tenTo (exponent : Int) : Nat × Nat :=
  (Nat.pow 10 exponent.toNat, Nat.pow 10 (-exponent).toNat)

/-- The exponent of the greatest power of ten that is at most the ratio. -/
def decimalPlace (numerator denominator : Nat) : Int :=
  let guess : Int :=
    ((Decimal.digits numerator).length : Int) - ((Decimal.digits denominator).length : Int)
  let (above, below) := tenTo guess
  if denominator * above ≤ numerator * below then guess else guess - 1

/-- Whether a decimal, given by its digits and its exponent of ten, is read as the magnitude. -/
def readsBack (magnitude significand : Nat) (exponent : Int) : Bool :=
  let (above, below) := tenTo exponent
  nearest (significand * above) below == magnitude

/-- The decimal with the given exponent of ten that is read as the magnitude: one of the two
neighbours of the magnitude on that decimal grid, the nearer if both are, the even one of two
equally near. -/
def neighbour? (magnitude : Nat) (exponent : Int) : Option Nat :=
  let (above, below) := tenTo exponent
  let numerator := (ratio magnitude).1 * below
  let denominator := (ratio magnitude).2 * above
  let floor := numerator / denominator
  match readsBack magnitude floor exponent, readsBack magnitude (floor + 1) exponent with
  | true, true => some (roundHalfEven numerator denominator)
  | true, false => some floor
  | false, true => some (floor + 1)
  | false, false => none

/-- A whole number and an exponent of ten without the trailing zeros of the whole number. -/
def dropZeros (significand : Nat) (exponent : Int) : Nat × Int :=
  if h : 0 < significand ∧ significand % 10 = 0 then
    dropZeros (significand / 10) (exponent + 1)
  else
    (significand, exponent)
termination_by significand

/-- The shortest decimal that is read as the magnitude: its digits and its exponent of ten. -/
def shortest (magnitude : Nat) : Nat × Int :=
  if magnitude = 0 then (0, 0)
  else
    let place := decimalPlace (ratio magnitude).1 (ratio magnitude).2
    let found := (List.range 17).findSome? fun (count : Nat) =>
      (neighbour? magnitude (place - count)).map fun digits => (digits, place - count)
    match found with
    | some (digits, exponent) => dropZeros digits exponent
    | none => (0, 0)

end Binary64

/-- How a floating-point number is laid out in text: the exponents of its first digit that are
written in positional notation. -/
structure Layout where
  leastPositional : Int
  greatestPositional : Int

namespace Layout

/-- The digits in positional notation, always with a fraction. -/
def positional (digits : List Char) (exponent : Int) : List Char :=
  let whole : Int := digits.length + exponent
  if 0 ≤ exponent then
    digits ++ List.replicate exponent.toNat '0' ++ ['.', '0']
  else if 0 < whole then
    digits.take whole.toNat ++ '.' :: digits.drop whole.toNat
  else
    '0' :: '.' :: List.replicate (-whole).toNat '0' ++ digits

/-- The digits with one in front of the point, and the exponent of ten with its sign. -/
def scientific (digits : List Char) (lead : Int) : List Char :=
  let mantissa := match digits with
    | first :: second :: rest => first :: '.' :: second :: rest
    | _ => digits
  mantissa ++ 'e' :: (if lead < 0 then '-' else '+') :: Decimal.digits lead.natAbs

/-- The text of a number under a layout. -/
def text (layout : Layout) (number : Binary64) : List Char :=
  let (significand, exponent) := Binary64.shortest number.magnitude
  let digits := Decimal.digits significand
  let lead : Int := digits.length - 1 + exponent
  let body :=
    if layout.leastPositional ≤ lead ∧ lead ≤ layout.greatestPositional then
      positional digits exponent
    else
      scientific digits lead
  if number.negative then '-' :: body else body

end Layout

end TouchDispatch.Number
