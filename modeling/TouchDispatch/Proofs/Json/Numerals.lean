/-
**A whole number is read as it was written.**

* `Fits`: the whole numbers that stay whole when they are read;
* `Ends`, `Breaks`: octets that no run of digits goes on in, and no numeral;
* `absorb_digits`: the digits of a number are read one after another into that number;
* `readNumber_run`: a run of digits is read before what follows it;
* `readNumber_digits`: **the digits of a whole number are read as that number**, if nothing follows
  in which a numeral goes on;
* `wholeOrDouble_natAbs`: a number that fits stays whole, with its sign.
-/

import TouchDispatch.Json.Numeral
import TouchDispatch.Proofs.Text.Encoding
import TouchDispatch.Text.Decimal

namespace TouchDispatch.Json

open TouchDispatch.Text

/-- A whole number that stays whole when it is read: it has at most 64 bits. -/
def Fits (value : Int) : Prop :=
  -(greatestNegated : Int) ≤ value ∧ value ≤ greatestSignificand

/-- Octets that no run of digits goes on in. -/
def Ends (rest : List UInt8) : Prop :=
  ∀ octet, rest.head? = some octet → isDigit octet = false

/-- Octets that no numeral goes on in. -/
def Breaks (rest : List UInt8) : Prop :=
  ∀ octet, rest.head? = some octet →
    isDigit octet = false ∧ octet ≠ 46 ∧ isExponentMark octet = false

/-! ### Digits -/

theorem digit_octet : ∀ digit < 10,
    Utf8.encode [Nat.digitChar digit] = [UInt8.ofNat (48 + digit)] ∧
      isDigit (UInt8.ofNat (48 + digit)) = true ∧
      digitValue (UInt8.ofNat (48 + digit)) = digit := by
  decide

theorem digitValue_le {octet : UInt8} (digit : isDigit octet = true) : digitValue octet ≤ 9 := by
  simp only [isDigit, Bool.and_eq_true, decide_eq_true_eq] at digit
  unfold digitValue
  omega

theorem absorb_append {limit total sum : Nat} {run : List UInt8}
    (absorbed : absorb limit total run = (sum, [])) (more : List UInt8) :
    absorb limit total (run ++ more) = absorb limit sum more := by
  induction run generalizing total with
  | nil =>
    obtain rfl : total = sum := congrArg Prod.fst absorbed
    rfl
  | cons digit rest ih =>
    unfold absorb at absorbed
    split at absorbed
    · next fits =>
      rw [List.cons_append, absorb, if_pos fits]
      exact ih absorbed
    · exact absurd (congrArg Prod.snd absorbed) (List.cons_ne_nil _ _)

/-- **The digits of a number are read one after another into that number.** The first one is no
zero, unless it is the only one. -/
theorem absorb_digits (n : Nat) {limit : Nat} (fits : n ≤ limit) :
    ∃ first more, Utf8.encode (Decimal.digits n) = first :: more ∧ isDigit first = true ∧
      (digitValue first = 0 → n = 0 ∧ more = []) ∧ (∀ octet ∈ more, isDigit octet = true) ∧
      absorb limit (digitValue first) more = (n, []) := by
  induction n using Nat.strongRecOn with
  | ind n ih =>
    rw [Decimal.digits]
    by_cases small : n < 10
    · rw [if_pos small]
      obtain ⟨octets, digit, value⟩ := digit_octet n small
      refine ⟨_, [], octets, digit, fun zero => ⟨value.symm.trans zero, rfl⟩,
        List.forall_mem_nil _, ?_⟩
      rw [value]
      rfl
    · rw [if_neg small]
      obtain ⟨first, more, octets, isFirst, zero, others, absorbed⟩ :=
        ih (n / 10) (by omega) (by omega)
      obtain ⟨last, digit, value⟩ := digit_octet (n % 10) (by omega)
      refine ⟨first, more ++ [UInt8.ofNat (48 + n % 10)], ?_, isFirst, fun none => ?_, ?_, ?_⟩
      · rw [Utf8.encode_append, octets, last]
        rfl
      · have := (zero none).1
        omega
      · intro octet member
        rcases List.mem_append.mp member with member | member
        · exact others octet member
        · exact List.mem_singleton.mp member ▸ digit
      · have joined : n / 10 * 10 + n % 10 = n := by omega
        rw [absorb_append absorbed, absorb, value, joined, if_pos fits]
        rfl

/-! ### Numbers -/

theorem ends_cons {octet : UInt8} (noDigit : isDigit octet = false) (tail : List UInt8) :
    Ends (octet :: tail) := by
  intro other first
  obtain rfl := Option.some.inj first
  exact noDigit

theorem Breaks.ends {rest : List UInt8} (breaks : Breaks rest) : Ends rest :=
  fun octet first => (breaks octet first).1

theorem takeWhile_digits {more rest : List UInt8} (digits : ∀ octet ∈ more, isDigit octet = true)
    (ends : Ends rest) : (more ++ rest).takeWhile isDigit = more := by
  rw [List.takeWhile_append_of_pos digits]
  cases rest with
  | nil => exact List.append_nil more
  | cons octet rest =>
    rw [List.takeWhile_cons, ends octet rfl]
    exact List.append_nil more

theorem dropWhile_digits {more rest : List UInt8} (digits : ∀ octet ∈ more, isDigit octet = true)
    (ends : Ends rest) : (more ++ rest).dropWhile isDigit = rest := by
  rw [List.dropWhile_append_of_pos digits]
  cases rest with
  | nil => rfl
  | cons octet rest =>
    rw [List.dropWhile_cons, ends octet rfl]
    rfl

/-- **A run of digits is read before what follows it.** Its first one is no zero, unless it is the
only one. -/
theorem readNumber_run {first : UInt8} {more rest : List UInt8} {n : Nat}
    (digit : isDigit first = true) (digits : ∀ octet ∈ more, isDigit octet = true)
    (zero : digitValue first = 0 → more = [])
    (absorbed : absorb greatestSignificand (digitValue first) more = (n, [])) (negative : Bool)
    (ends : Ends rest) :
    readNumber negative (first :: (more ++ rest)) = readAfterWhole negative n rest := by
  have accepted : ¬(!isDigit first) = true := by
    rw [digit]
    exact Bool.false_ne_true
  rw [readNumber, if_neg accepted]
  by_cases none : digitValue first = 0
  · obtain rfl := zero none
    have noDigit : isDigit (rest.headD 0) = false := by
      cases rest with
      | nil => rfl
      | cons octet rest => exact ends octet rfl
    obtain rfl : digitValue first = n := congrArg Prod.fst absorbed
    rw [if_pos none, List.nil_append, noDigit, if_neg Bool.false_ne_true, none]
  · rw [if_neg none, takeWhile_digits digits ends, dropWhile_digits digits ends]
    dsimp only
    rw [absorbed]

theorem readAfterWhole_breaks {rest : List UInt8} (breaks : Breaks rest) (negative : Bool)
    (n : Nat) : readAfterWhole negative n rest = .ok (wholeOrDouble negative n, rest) := by
  cases rest with
  | nil => rfl
  | cons octet rest =>
    obtain ⟨_, noPoint, noExponent⟩ := breaks octet rfl
    rw [readAfterWhole, if_neg noPoint, noExponent]
    rfl

/-- **The digits of a whole number are read as that number.** -/
theorem readNumber_digits {n : Nat} (fits : n ≤ greatestSignificand) (negative : Bool)
    {rest : List UInt8} (breaks : Breaks rest) :
    readNumber negative (Utf8.encode (Decimal.digits n) ++ rest) =
      .ok (wholeOrDouble negative n, rest) := by
  obtain ⟨first, more, octets, digit, zero, digits, absorbed⟩ := absorb_digits n fits
  rw [octets, List.cons_append, readNumber_run digit digits (fun none => (zero none).2) absorbed
    negative breaks.ends]
  exact readAfterWhole_breaks breaks negative n

/-- A number that fits keeps its kind. -/
theorem wholeOrDouble_natAbs {value : Int} (fits : Fits value) :
    wholeOrDouble (decide (value < 0)) value.natAbs = .whole value := by
  obtain ⟨least, _⟩ := fits
  unfold wholeOrDouble
  by_cases negative : value < 0
  · rw [decide_eq_true negative, if_pos rfl, if_neg (by omega)]
    exact congrArg Number.whole (by omega)
  · rw [decide_eq_false negative, if_neg Bool.false_ne_true]
    exact congrArg Number.whole (by omega)

end TouchDispatch.Json
