/-
**The text of a floating-point number is read digit by digit.**

* `absorb_split`, `absorb_zeros`: the digits of a number may be cut anywhere, and zeros may follow;
* `readFraction_run`, `readExponent_run`: the digits behind the point and the digits of an exponent
  are read before what follows them;
* `readNumber_whole`, `readNumber_point`, `readNumber_scientific`: the three forms of a text;
* `readNumber_double`: **the text of a number is read as what a reader makes of it**, from the
  digits and the exponent that are written in it.
-/

import TouchDispatch.Json.Printer
import TouchDispatch.Proofs.Json.Numerals
import TouchDispatch.Proofs.Number.Rereading

namespace TouchDispatch.Json

open TouchDispatch.Number TouchDispatch.Text

/-! ### Runs of digits -/

/-- The octets of a run of digits are its characters one by one. -/
theorem encode_run {run : List Char} (digits : ∀ c ∈ run, Decimal.isDigit c = true) :
    Utf8.encode run = run.map fun c => UInt8.ofNat c.toNat := by
  induction run with
  | nil => rfl
  | cons c run ih =>
    obtain ⟨digit, others⟩ := List.forall_mem_cons.mp digits
    have most : c ≤ '9' := of_decide_eq_true (Bool.and_eq_true_iff.mp digit).2
    have plain : c.toNat < 0x80 := (UInt32.le_iff_toNat_le.mp most).trans_lt (by decide)
    rw [Utf8.encode_cons, Utf8.encodeChar_plain plain, ih others]
    rfl

/-- A run of digits that is read into a number may be cut anywhere. -/
theorem absorb_split {limit total n : Nat} {run more : List UInt8}
    (absorbed : absorb limit total (run ++ more) = (n, [])) :
    ∃ middle, absorb limit total run = (middle, []) ∧ absorb limit middle more = (n, []) := by
  induction run generalizing total with
  | nil => exact ⟨total, rfl, absorbed⟩
  | cons digit rest ih =>
    rw [List.cons_append, absorb] at absorbed
    rw [absorb]
    split at absorbed
    · next fits =>
      rw [if_pos fits]
      exact ih absorbed
    · exact absurd (congrArg Prod.snd absorbed) (List.cons_ne_nil _ _)

/-- Zeros multiply by ten. -/
theorem absorb_zeros {limit total zeros : Nat} (fits : total * 10 ^ zeros ≤ limit) :
    absorb limit total (List.replicate zeros 48) = (total * 10 ^ zeros, []) := by
  induction zeros generalizing total with
  | zero => rw [Nat.pow_zero, Nat.mul_one, List.replicate_zero, absorb]
  | succ zeros ih =>
    have again : total * 10 * 10 ^ zeros = total * 10 ^ (zeros + 1) := by
      rw [Nat.mul_assoc, Nat.pow_succ']
    have zero : total * 10 + digitValue 48 = total * 10 := rfl
    have small : total * 10 ≤ limit :=
      (Nat.le_mul_of_pos_right _ (Nat.pow_pos (by decide))).trans (again.trans_le fits)
    rw [List.replicate_succ, absorb, zero, if_pos small, ih (again.trans_le fits), again]

/-- The octets of the digits of a number, with nothing lost where they are cut. -/
theorem encode_take_drop (n : Nat) {first : UInt8} {more : List UInt8}
    (octets : Utf8.encode (Decimal.digits n) = first :: more) {place : Nat} (inner : 0 < place) :
    Utf8.encode ((Decimal.digits n).take place) = first :: more.take (place - 1) ∧
      Utf8.encode ((Decimal.digits n).drop place) = more.drop (place - 1) := by
  have digits := List.all_eq_true.mp (Decimal.digits_all n)
  obtain ⟨before, rfl⟩ : ∃ before, place = before + 1 := ⟨place - 1, by omega⟩
  rw [encode_run digits] at octets
  rw [encode_run fun c member => digits c (List.mem_of_mem_take member),
    encode_run fun c member => digits c (List.mem_of_mem_drop member), List.map_take, List.map_drop,
    octets]
  exact ⟨rfl, rfl⟩

theorem length_encode_digits (n : Nat) {first : UInt8} {more : List UInt8}
    (octets : Utf8.encode (Decimal.digits n) = first :: more) :
    (Decimal.digits n).length = more.length + 1 := by
  have length := congrArg List.length octets
  rw [encode_run (List.all_eq_true.mp (Decimal.digits_all n)), List.length_map] at length
  exact length

/-! ### Parts of a numeral -/

section Parts

variable {negative : Bool} {total n : Nat} {exponent : ℤ} {run rest : List UInt8}

theorem readTail_breaks (breaks : Breaks rest) :
    readTail negative n exponent rest = readScaled negative n exponent rest := by
  cases rest with
  | nil => rfl
  | cons octet rest =>
    obtain ⟨_, _, noExponent⟩ := breaks octet rfl
    rw [readTail, noExponent]
    rfl

/-- **The digits behind the point are read before what follows them.** -/
theorem readFraction_run (some : run ≠ []) (digits : ∀ octet ∈ run, isDigit octet = true)
    (absorbed : absorb greatestSignificand total run = (n, [])) (ends : Ends rest) :
    readFraction negative total exponent (run ++ rest) =
      readTail negative n (exponent - run.length) rest := by
  unfold readFraction
  dsimp only
  rw [takeWhile_digits digits ends, dropWhile_digits digits ends, absorbed,
    List.isEmpty_eq_false_iff.mpr some]
  rfl

/-- **The sign and the digits of an exponent are read before what follows them.** -/
theorem readExponent_run {power : ℤ} (small : power.natAbs ≤ greatestExponent) (ends : Ends rest) :
    readExponent negative n exponent ((if power < 0 then 45 else 43) ::
      (Utf8.encode (Decimal.digits power.natAbs) ++ rest)) =
        readScaled negative n (exponent + power) rest := by
  obtain ⟨first, more, octets, digit, _, digits, absorbed⟩ := absorb_digits power.natAbs small
  have minus : (some (45 : UInt8) == some 45) = true := rfl
  have plus : (some (43 : UInt8) == some 45) = false := rfl
  have other : (some (43 : UInt8) == some 43) = true := rfl
  rw [octets, List.cons_append]
  by_cases lowers : power < 0
  · have back : exponent - power.natAbs = exponent + power := by omega
    rw [if_pos lowers]
    simp only [readExponent, List.head?_cons, minus, Bool.true_or, if_true, List.drop_one,
      List.tail_cons, digit, Bool.not_true, Bool.false_eq_true, if_false,
      takeWhile_digits digits ends, dropWhile_digits digits ends, absorbed, back]
  · have back : exponent + power.natAbs = exponent + power := by omega
    rw [if_neg lowers]
    simp only [readExponent, List.head?_cons, plus, other, Bool.false_or, if_true, List.drop_one,
      List.tail_cons, digit, Bool.not_true, Bool.false_eq_true, if_false,
      takeWhile_digits digits ends, dropWhile_digits digits ends, absorbed, back]

end Parts

/-! ### The forms of a text -/

section Forms

variable {negative : Bool} {significand : Nat} {exponent : ℤ} {rest : List UInt8}

theorem encode_zeros (zeros : Nat) :
    Utf8.encode (List.replicate zeros '0') = List.replicate zeros 48 := by
  rw [encode_run fun c member => List.eq_of_mem_replicate member ▸ rfl, List.map_replicate]
  rfl

theorem isDigit_zeros (zeros : Nat) : ∀ octet ∈ List.replicate zeros (48 : UInt8),
    isDigit octet = true :=
  fun _ member => List.eq_of_mem_replicate member ▸ rfl

/-- A whole number is read with the zero behind its point. -/
theorem readNumber_whole (up : 0 ≤ exponent) (zero : significand = 0 → exponent = 0)
    (fits : significand * Nat.pow 10 exponent.toNat * 10 ≤ greatestSignificand)
    (breaks : Breaks rest) :
    readNumber negative
        (Utf8.encode (Layout.positional (Decimal.digits significand) exponent) ++ rest) =
      readScaled negative (significand * Nat.pow 10 exponent.toNat * 10) (-1) rest := by
  lift exponent to ℕ using up
  rw [Int.toNat_natCast, Nat.pow_eq] at fits ⊢
  have least : significand * 10 ^ exponent ≤ greatestSignificand :=
    (Nat.le_mul_of_pos_right _ (by decide)).trans fits
  obtain ⟨first, more, octets, digit, none, digits, absorbed⟩ := absorb_digits significand
    ((Nat.le_mul_of_pos_right _ (Nat.pow_pos (by decide))).trans least)
  have whole : absorb greatestSignificand (digitValue first) (more ++ List.replicate exponent 48) =
      (significand * 10 ^ exponent, []) := by
    rw [absorb_append absorbed, absorb_zeros least]
  have last : absorb greatestSignificand (significand * 10 ^ exponent) [48] =
      (significand * 10 ^ exponent * 10, []) :=
    @absorb_zeros greatestSignificand (significand * 10 ^ exponent) 1 fits
  have shape : Utf8.encode (Layout.positional (Decimal.digits significand) exponent) ++ rest =
      first :: ((more ++ List.replicate exponent 48) ++ (46 :: ([48] ++ rest))) := by
    have point : Utf8.encode ['.', '0'] = [46, 48] := rfl
    rw [Layout.positional, if_pos (Int.natCast_nonneg exponent), Int.toNat_natCast,
      Utf8.encode_append, Utf8.encode_append, octets, encode_zeros, point]
    simp only [List.cons_append, List.append_assoc, List.nil_append]
  have alone : digitValue first = 0 → more ++ List.replicate exponent 48 = [] := by
    intro nothing
    obtain ⟨rfl, rfl⟩ := none nothing
    have := zero rfl
    obtain rfl : exponent = 0 := by omega
    rfl
  rw [shape, readNumber_run digit (List.forall_mem_append.mpr ⟨digits, isDigit_zeros exponent⟩)
    alone whole negative (ends_cons rfl _), readAfterWhole, if_pos rfl,
    readFraction_run (List.cons_ne_nil _ _) (List.forall_mem_singleton.mpr rfl) last breaks.ends,
    readTail_breaks breaks]
  rfl

/-- A number with digits on both sides of its point is read with all of them. -/
theorem readNumber_inner {place : ℕ} (some : 0 < significand)
    (fits : significand ≤ greatestSignificand) (down : exponent < 0)
    (at_place : ((Decimal.digits significand).length : ℤ) + exponent = place + 1)
    (breaks : Breaks rest) :
    readNumber negative (Utf8.encode ((Decimal.digits significand).take (place + 1) ++
      '.' :: (Decimal.digits significand).drop (place + 1)) ++ rest) =
        readScaled negative significand exponent rest := by
  obtain ⟨first, more, octets, digit, none, digits, absorbed⟩ := absorb_digits significand fits
  rw [length_encode_digits significand octets] at at_place
  obtain ⟨before, behind⟩ := encode_take_drop significand octets place.succ_pos
  rw [Nat.succ_eq_add_one, Nat.add_sub_cancel] at before behind
  have joined : absorb greatestSignificand (digitValue first)
      (more.take place ++ more.drop place) = (significand, []) := by
    rw [List.take_append_drop]
    exact absorbed
  obtain ⟨middle, left, right⟩ := absorb_split joined
  have behind_length : ((more.drop place).length : ℤ) = -exponent := by
    rw [List.length_drop]
    omega
  have behind_some : more.drop place ≠ [] := by
    intro nothing
    rw [nothing, List.length_nil] at behind_length
    omega
  have alone : digitValue first = 0 → more.take place = [] := fun nothing =>
    absurd (none nothing).1 some.ne'
  have shape : Utf8.encode ((Decimal.digits significand).take (place + 1) ++
      '.' :: (Decimal.digits significand).drop (place + 1)) ++ rest =
        first :: (more.take place ++ (46 :: (more.drop place ++ rest))) := by
    rw [Utf8.encode_append, Utf8.encode_cons, before, behind]
    simp only [List.cons_append, List.append_assoc]
    rfl
  rw [shape, readNumber_run digit (fun octet member => digits octet (List.mem_of_mem_take member))
      alone left negative (ends_cons rfl _),
    readAfterWhole, if_pos rfl,
    readFraction_run behind_some (fun octet member => digits octet (List.mem_of_mem_drop member))
      right breaks.ends,
    readTail_breaks breaks, behind_length, zero_sub, neg_neg]

/-- A number with all its digits behind the point, perhaps with zeros between, is read with all of
them. -/
theorem readNumber_small {zeros : ℕ} (fits : significand ≤ greatestSignificand)
    (at_zeros : ((Decimal.digits significand).length : ℤ) + exponent = -zeros)
    (breaks : Breaks rest) :
    readNumber negative (Utf8.encode ('0' :: '.' :: (List.replicate zeros '0' ++
      Decimal.digits significand)) ++ rest) = readScaled negative significand exponent rest := by
  obtain ⟨first, more, octets, digit, _, digits, absorbed⟩ := absorb_digits significand fits
  rw [length_encode_digits significand octets] at at_zeros
  have nothing : absorb greatestSignificand (digitValue 48) [] = (0, []) := rfl
  have skipped : absorb greatestSignificand 0 (List.replicate zeros 48) = (0, []) := by
    have none := @absorb_zeros greatestSignificand 0 zeros (by omega)
    rwa [Nat.zero_mul] at none
  have small : 0 * 10 + digitValue first ≤ greatestSignificand := by
    have := digitValue_le digit
    have nine : 9 ≤ greatestSignificand := by decide
    omega
  have run : absorb greatestSignificand 0 (List.replicate zeros 48 ++ first :: more) =
      (significand, []) := by
    rw [absorb_append skipped, absorb, if_pos small, Nat.zero_mul, Nat.zero_add]
    exact absorbed
  have run_length : ((List.replicate zeros 48 ++ first :: more).length : ℤ) = -exponent := by
    rw [List.length_append, List.length_replicate, List.length_cons]
    omega
  have shape : Utf8.encode ('0' :: '.' :: (List.replicate zeros '0' ++
      Decimal.digits significand)) ++ rest =
        48 :: ([] ++ (46 :: ((List.replicate zeros 48 ++ first :: more) ++ rest))) := by
    rw [Utf8.encode_cons, Utf8.encode_cons, Utf8.encode_append, encode_zeros, octets]
    rfl
  rw [shape,
    readNumber_run rfl (List.forall_mem_nil _) (fun _ => rfl) nothing negative (ends_cons rfl _),
    readAfterWhole, if_pos rfl,
    readFraction_run (List.append_ne_nil_of_right_ne_nil _ (List.cons_ne_nil _ _))
      (List.forall_mem_append.mpr ⟨isDigit_zeros zeros, List.forall_mem_cons.mpr ⟨digit, digits⟩⟩)
      run breaks.ends,
    readTail_breaks breaks, run_length, zero_sub, neg_neg]

/-- A number with a fraction is read with all its digits. -/
theorem readNumber_point (down : exponent < 0) (some : 0 < significand)
    (fits : significand ≤ greatestSignificand) (breaks : Breaks rest) :
    readNumber negative
        (Utf8.encode (Layout.positional (Decimal.digits significand) exponent) ++ rest) =
      readScaled negative significand exponent rest := by
  rw [Layout.positional, if_neg (Int.not_le.mpr down)]
  by_cases inner : 0 < ((Decimal.digits significand).length : ℤ) + exponent
  · obtain ⟨place, at_place⟩ : ∃ place : ℕ,
        ((Decimal.digits significand).length : ℤ) + exponent = place + 1 :=
      ⟨(((Decimal.digits significand).length : ℤ) + exponent - 1).toNat, by omega⟩
    have back : ((place : ℤ) + 1).toNat = place + 1 := by omega
    rw [if_pos inner, at_place, back]
    exact readNumber_inner some fits down at_place breaks
  · obtain ⟨zeros, at_zeros⟩ : ∃ zeros : ℕ,
        ((Decimal.digits significand).length : ℤ) + exponent = -zeros :=
      ⟨(-(((Decimal.digits significand).length : ℤ) + exponent)).toNat, by omega⟩
    rw [if_neg inner, at_zeros, neg_neg, Int.toNat_natCast]
    exact readNumber_small fits at_zeros breaks

/-- A number with an exponent is read with all its digits. -/
theorem readNumber_scientific (fits : significand ≤ greatestSignificand) {lead : ℤ}
    (at_lead : lead = (Decimal.digits significand).length - 1 + exponent)
    (small : lead.natAbs ≤ greatestExponent) (breaks : Breaks rest) :
    readNumber negative
        (Utf8.encode (Layout.scientific (Decimal.digits significand) lead) ++ rest) =
      readScaled negative significand exponent rest := by
  obtain ⟨first, more, octets, digit, none, digits, absorbed⟩ := absorb_digits significand fits
  have length := length_encode_digits significand octets
  have power : Utf8.encode ('e' :: (if lead < 0 then '-' else '+') :: Decimal.digits lead.natAbs) =
      101 :: (if lead < 0 then 45 else 43) :: Utf8.encode (Decimal.digits lead.natAbs) := by
    rw [Utf8.encode_cons, Utf8.encode_cons]
    split <;> rfl
  obtain ⟨before, behind⟩ := encode_take_drop significand octets one_pos
  rw [length] at at_lead
  unfold Layout.scientific
  rw [Utf8.encode_append, power]
  generalize Decimal.digits significand = run at octets before behind length
  match run with
  | [] => cases octets
  | [c] =>
    obtain rfl : [] = more := behind
    have shape : Utf8.encode [c] ++ (101 :: (if lead < 0 then 45 else 43) ::
        Utf8.encode (Decimal.digits lead.natAbs)) ++ rest = first :: ([] ++
          (101 :: (if lead < 0 then 45 else 43) ::
            (Utf8.encode (Decimal.digits lead.natAbs) ++ rest))) := by
      rw [octets]
      rfl
    have same : 0 + lead = exponent := by
      rw [at_lead]
      simp
    dsimp only
    rw [shape, readNumber_run digit digits (fun _ => rfl) absorbed negative (ends_cons rfl _)]
    show readExponent negative significand 0 _ = _
    rw [readExponent_run small breaks.ends, same]
  | c :: d :: run =>
    have tail : Utf8.encode (d :: run) = more := behind
    have some : more ≠ [] := by
      rintro rfl
      cases length
    have shape : Utf8.encode (c :: '.' :: d :: run) ++ (101 :: (if lead < 0 then 45 else 43) ::
        Utf8.encode (Decimal.digits lead.natAbs)) ++ rest = first :: ([] ++ (46 :: (more ++
          (101 :: (if lead < 0 then 45 else 43) ::
            (Utf8.encode (Decimal.digits lead.natAbs) ++ rest))))) := by
      have head : Utf8.encode [c] = [first] := before
      have split : Utf8.encode (c :: '.' :: d :: run) =
          Utf8.encode [c] ++ (46 :: Utf8.encode (d :: run)) := by
        rw [← List.singleton_append, Utf8.encode_append, Utf8.encode_cons]
        rfl
      rw [split, head, tail]
      simp only [List.cons_append, List.append_assoc, List.nil_append]
    have same : 0 - (more.length : ℤ) + lead = exponent := by
      rw [at_lead]
      push_cast
      ring
    dsimp only
    rw [shape, readNumber_run digit (List.forall_mem_nil _) (fun _ => rfl) rfl negative
      (ends_cons rfl _), readAfterWhole, if_pos rfl,
      readFraction_run some digits absorbed (ends_cons rfl _)]
    show readExponent negative significand _ _ = _
    rw [readExponent_run small breaks.ends, same]

end Forms

/-! ### Texts -/

/-- What the digits and the exponent of a finite magnitude are good for. -/
theorem shortest_bounds {magnitude : Nat} (finite : magnitude < Binary64.infinite) :
    ((Binary64.shortest magnitude).1 = 0 → (Binary64.shortest magnitude).2 = 0) ∧
      (Binary64.shortest magnitude).1 ≤ 10 ^ 17 ∧
        (((Decimal.digits (Binary64.shortest magnitude).1).length : ℤ) - 1 +
          (Binary64.shortest magnitude).2).natAbs ≤ greatestExponent := by
  rcases Nat.eq_zero_or_pos magnitude with rfl | positive
  · decide +kernel
  · obtain ⟨some, most, _⟩ := Binary64.shortest_spec positive
    obtain ⟨zeros, length, _, _, lower, upper⟩ := Layout.lead_bounds positive finite
    refine ⟨fun none => absurd none some.ne', most, ?_⟩
    have wide : 1076 ≤ greatestExponent := by decide
    rw [length]
    omega

/-- **The text of a magnitude is read as the digits and the exponent that are written in it.** -/
theorem readNumber_unsigned {magnitude : Nat} (finite : magnitude < Binary64.infinite)
    (negative : Bool) {rest : List UInt8} (breaks : Breaks rest) :
    readNumber negative (Utf8.encode (layout.unsigned magnitude) ++ rest) =
      readScaled negative (layout.written magnitude).1 (layout.written magnitude).2 rest := by
  obtain ⟨zero, most, small⟩ := shortest_bounds finite
  have wide : 10 ^ 17 ≤ greatestSignificand := by decide
  have written_le : (layout.written magnitude).1 ≤ greatestSignificand :=
    (Layout.written_le (show (15 : ℤ) ≤ 15 from le_rfl) finite).trans wide
  by_cases positional : layout.leastPositional ≤
      ((Decimal.digits (Binary64.shortest magnitude).1).length : ℤ) - 1 +
        (Binary64.shortest magnitude).2 ∧
      ((Decimal.digits (Binary64.shortest magnitude).1).length : ℤ) - 1 +
        (Binary64.shortest magnitude).2 ≤ layout.greatestPositional
  · have text : layout.unsigned magnitude = Layout.positional
        (Decimal.digits (Binary64.shortest magnitude).1) (Binary64.shortest magnitude).2 :=
      if_pos positional
    by_cases up : 0 ≤ (Binary64.shortest magnitude).2
    · have written : layout.written magnitude = ((Binary64.shortest magnitude).1 *
          Nat.pow 10 (Binary64.shortest magnitude).2.toNat * 10, -1) := if_pos ⟨positional, up⟩
      rw [written] at written_le ⊢
      rw [text]
      exact readNumber_whole up zero written_le breaks
    · have written : layout.written magnitude = Binary64.shortest magnitude :=
        if_neg fun both => up both.2
      have some : 0 < (Binary64.shortest magnitude).1 :=
        Nat.pos_of_ne_zero fun none => up (zero none).ge
      rw [text, written]
      exact readNumber_point (Int.not_le.mp up) some (most.trans wide) breaks
  · have text : layout.unsigned magnitude = Layout.scientific
        (Decimal.digits (Binary64.shortest magnitude).1)
        ((Decimal.digits (Binary64.shortest magnitude).1).length - 1 +
          (Binary64.shortest magnitude).2) := if_neg positional
    have written : layout.written magnitude = Binary64.shortest magnitude :=
      if_neg fun both => positional both.1
    rw [text, written]
    exact readNumber_scientific (most.trans wide) rfl small breaks

/-- **The text of a floating-point number is read as what a reader makes of it.** -/
theorem readNumber_double {number : Binary64} (finite : number.Finite) {rest : List UInt8}
    (breaks : Breaks rest) :
    readNumber number.negative (Utf8.encode (layout.unsigned number.magnitude) ++ rest) =
      .ok (.double (layout.reread number), rest) := by
  rw [readNumber_unsigned finite number.negative breaks, readScaled,
    layout.ofDecimal_written finite]

/-- A text that is read as a number begins with a digit. -/
theorem digit_of_readNumber {negative : Bool} {input rest : List UInt8} {number : Number}
    (read : readNumber negative input = .ok (number, rest)) :
    ∃ first more, input = first :: more ∧ isDigit first = true := by
  unfold readNumber at read
  split at read
  · cases read
  · next first more =>
    refine ⟨first, more, rfl, ?_⟩
    by_contra other
    rw [Bool.not_eq_true] at other
    rw [other] at read
    cases read

end TouchDispatch.Json
