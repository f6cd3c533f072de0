/-
**Whole numbers in decimal text.**

* `digits`, `integer`: the text of a natural number and of an integer;
* `natural?`: the value of a non-empty run of ASCII digits;
* `int32?`: the reading of a signed 32-bit integer: at most one sign, digits only, in range.
-/

namespace TouchDispatch.Text.Decimal

/-- The decimal digits of a natural number, most significant first, without leading zeros. -/
def digits (n : Nat) : List Char :=
  if n < 10 then [Nat.digitChar n] else digits (n / 10) ++ [Nat.digitChar (n % 10)]

/-- The decimal text of an integer, with a minus sign in front of a negative one. -/
def integer (n : Int) : List Char :=
  if n < 0 then '-' :: digits n.natAbs else digits n.natAbs

/-- An ASCII digit. -/
def isDigit (c : Char) : Bool :=
  decide ('0' ≤ c) && decide (c ≤ '9')

/-- The number that a digit stands for. -/
def digitValue (c : Char) : Nat :=
  c.toNat - '0'.toNat

/-- The number written by a run of digits. -/
def value (run : List Char) : Nat :=
  run.foldl (fun total c => 10 * total + digitValue c) 0

/-- The number written by a non-empty run of ASCII digits. -/
def natural? (text : List Char) : Option Nat :=
  if !text.isEmpty && text.all isDigit then some (value text) else none

/-- The least signed 32-bit integer. -/
def int32Least : Int := -2147483648

/-- The greatest signed 32-bit integer. -/
def int32Greatest : Int := 2147483647

/-- An integer that fits in 32 bits. -/
def inInt32? (n : Int) : Option Int :=
  if int32Least ≤ n ∧ n ≤ int32Greatest then some n else none

/-- A signed 32-bit integer: at most one sign, then ASCII digits only, in range. -/
def int32? : List Char → Option Int
  | '+' :: rest => (natural? rest).bind fun n => inInt32? (n : Int)
  | '-' :: rest => (natural? rest).bind fun n => inInt32? (-(n : Int))
  | text => (natural? text).bind fun n => inInt32? (n : Int)

end TouchDispatch.Text.Decimal
