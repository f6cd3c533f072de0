/-
**Monotonic milliseconds.**

Instants and spans are whole milliseconds in the signed 64-bit range:

* `earliest`, `latest`: the two ends of that range; the earliest instant stands for "never";
* `elapsed`: the span between two instants, held at the ends of the range.

All other sums and differences of instants are exact. They stay in the range as long as the clock
shows nothing below zero and leaves room for two seconds more.
-/

namespace TouchDispatch.Time

/-- The least instant of the 64-bit range. An event that has not happened yet is dated here. -/
def earliest : Int := -9223372036854775808

/-- The greatest instant of the 64-bit range. -/
def latest : Int := 9223372036854775807

/-- The milliseconds from `start` to `finish`. A span outside the 64-bit range is held at its
nearer end, so that "never" is long ago for every instant of the clock's non-negative half. -/
def elapsed (start finish : Int) : Int :=
  max earliest (min latest (finish - start))

end TouchDispatch.Time
