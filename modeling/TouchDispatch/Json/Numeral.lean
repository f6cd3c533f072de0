/-
**Reading JSON numbers.**

* `readNumber`: a number from the octet after an optional minus sign on;
* `absorb`: the digits that fit into a bounded whole number, and how many they are.

A significand is kept in 64 bits. Digits that no longer fit raise the exponent when they stand
before the point and are dropped when they stand after it.
-/

import TouchDispatch.Json.Fault

namespace TouchDispatch.Json

open TouchDispatch.Number

/-- The answer of a reading step: a result with the octets that are left, or a refusal. -/
abbrev Reading (α : Type) := Except Stop (α × List UInt8)

/-- Refuses at the place reached. -/
def stopHere {α : Type} (cause : Cause) (rest : List UInt8) : Except Stop α :=
  .error ⟨cause, rest.length⟩

/-- Refuses at the octet that comes next, counted as read. At the end of the input this is the
place reached. -/
def stopAtNext {α : Type} (cause : Cause) (rest : List UInt8) : Except Stop α :=
  .error ⟨cause, rest.length - 1⟩

/-- An ASCII digit. -/
def isDigit (octet : UInt8) : Bool :=
  48 ≤ octet.toNat && octet.toNat ≤ 57

/-- The letter that begins an exponent, in either case. -/
def isExponentMark (octet : UInt8) : Bool :=
  octet == 101 || octet == 69

/-- The number that a digit stands for. -/
def digitValue (octet : UInt8) : Nat :=
  octet.toNat - 48

/-- The greatest significand: the greatest unsigned 64-bit number. -/
def greatestSignificand : Nat := 18446744073709551615

/-- The greatest exponent: the greatest signed 32-bit number. -/
def greatestExponent : Nat := 2147483647

/-- The least negative whole number, as the number after its minus sign. -/
def greatestNegated : Nat := 9223372036854775808

/-- Appends digits to a whole number while it stays within `limit`. The answer is the number and
the digits that did not fit. -/
def absorb (limit : Nat) : Nat → List UInt8 → Nat × List UInt8
  | total, [] => (total, [])
  | total, digit :: rest =>
    if total * 10 + digitValue digit ≤ limit then
      absorb limit (total * 10 + digitValue digit) rest
    else
      (total, digit :: rest)

/-- The floating-point number of a sign, a significand and an exponent of ten. -/
def readScaled (negative : Bool) (significand : Nat) (exponent : Int) (rest : List UInt8) :
    Reading Number :=
  match Binary64.ofDecimal negative significand exponent with
  | some number => .ok (.double number, rest)
  | none => stopHere .numberOutOfRange rest

/-- What follows the letter of an exponent; `exponent` is the one found so far. An exponent
that does not fit in 32 bits makes the number zero or puts it out of range. -/
def readExponent (negative : Bool) (significand : Nat) (exponent : Int) (input : List UInt8) :
    Reading Number :=
  let lowers := input.head? == some 45
  match if lowers || input.head? == some 43 then input.drop 1 else input with
  | [] => stopHere .endInValue []
  | first :: rest =>
    if !isDigit first then stopHere .invalidNumber rest
    else
      let run := rest.takeWhile isDigit
      let after := rest.dropWhile isDigit
      match absorb greatestExponent (digitValue first) run with
      | (power, []) =>
        readScaled negative significand (if lowers then exponent - power else exponent + power)
          after
      | (_, _ :: others) =>
        if significand ≠ 0 ∧ lowers = false then
          .error ⟨.numberOutOfRange, others.length + after.length⟩
        else
          .ok (.double ⟨negative, 0⟩, after)

/-- What follows the digits of a number once it is known to be a floating-point number. -/
def readTail (negative : Bool) (significand : Nat) (exponent : Int) (input : List UInt8) :
    Reading Number :=
  match input with
  | [] => readScaled negative significand exponent []
  | octet :: rest =>
    if isExponentMark octet then readExponent negative significand exponent rest
    else readScaled negative significand exponent (octet :: rest)

/-- What follows the point of a number. -/
def readFraction (negative : Bool) (significand : Nat) (exponent : Int) (input : List UInt8) :
    Reading Number :=
  let run := input.takeWhile isDigit
  let after := input.dropWhile isDigit
  if run.isEmpty then
    match after with
    | [] => stopHere .endInValue []
    | _ :: _ => stopAtNext .invalidNumber after
  else
    let (significand, others) := absorb greatestSignificand significand run
    readTail negative significand (exponent - (run.length - others.length : Nat)) after

/-- A number without point and exponent: whole if it fits, and minus zero is not whole. -/
def wholeOrDouble (negative : Bool) (significand : Nat) : Number :=
  if negative then
    if significand = 0 ∨ greatestNegated < significand then
      .double ⟨true, Binary64.ofNat significand⟩
    else
      .whole (-(significand : Int))
  else
    .whole significand

/-- What follows the whole part of a number whose digits all fitted. -/
def readAfterWhole (negative : Bool) (significand : Nat) (input : List UInt8) : Reading Number :=
  match input with
  | [] => .ok (wholeOrDouble negative significand, [])
  | octet :: rest =>
    if octet = 46 then readFraction negative significand 0 rest
    else if isExponentMark octet then readExponent negative significand 0 rest
    else .ok (wholeOrDouble negative significand, octet :: rest)

/-- What follows the whole part of a number of which `extra` digits did not fit. -/
def readAfterLong (negative : Bool) (significand extra : Nat) (input : List UInt8) :
    Reading Number :=
  match input with
  | [] => readTail negative significand extra []
  | octet :: rest =>
    if octet = 46 then readFraction negative significand extra rest
    else readTail negative significand extra (octet :: rest)

/-- A number, from its first digit on. -/
def readNumber (negative : Bool) (input : List UInt8) : Reading Number :=
  match input with
  | [] => stopHere .endInValue []
  | first :: rest =>
    if !isDigit first then stopHere .invalidNumber rest
    else if digitValue first = 0 then
      if (rest.headD 0 |> isDigit) then stopAtNext .invalidNumber rest
      else readAfterWhole negative 0 rest
    else
      let run := rest.takeWhile isDigit
      let after := rest.dropWhile isDigit
      match absorb greatestSignificand (digitValue first) run with
      | (significand, []) => readAfterWhole negative significand after
      | (significand, others) => readAfterLong negative significand others.length after

end TouchDispatch.Json
