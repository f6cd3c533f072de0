/-
**The UTF-8 encoding is read back as it was written.**

* `next_encodeChar`: the octets of one character are read as that character, whatever follows;
* `decode_encode`: **the octets of a text are read as that text**;
* `encodeChar_plain`, `encodeChar_high`: an ASCII character is its own octet, and no octet of any
  other character is an ASCII one.
-/

import TouchDispatch.Text.Utf8

namespace TouchDispatch.Text.Utf8

theorem toNat_ofNat {code : Nat} (small : code < 256) : (UInt8.ofNat code).toNat = code := by
  rw [UInt8.toNat_ofNat']
  exact Nat.mod_eq_of_lt small

/-- The code of a character lies outside the surrogates. -/
theorem toNat_valid (c : Char) : c.toNat < 0xD800 ∨ 0xDFFF < c.toNat ∧ c.toNat < 0x110000 :=
  c.valid

/-! ### One character -/

theorem continues_of {octet : UInt8} (least : 0x80 ≤ octet.toNat) (greatest : octet.toNat ≤ 0xBF) :
    continues octet = true := by
  simp only [continues, Bool.and_eq_true, decide_eq_true_eq]
  exact ⟨least, greatest⟩

theorem next_one {code : Nat} (small : code < 0x80) (rest : List UInt8) :
    next (UInt8.ofNat code) rest = (some (Char.ofNat code), rest) := by
  have lead : (UInt8.ofNat code).toNat = code := toNat_ofNat (by omega)
  unfold next
  rw [lead, if_pos small]

theorem next_two {code : Nat} (least : 0x80 ≤ code) (small : code < 0x800) (rest : List UInt8) :
    next (UInt8.ofNat (0xC0 + code / 64)) (UInt8.ofNat (0x80 + code % 64) :: rest) =
      (some (Char.ofNat code), rest) := by
  have lead : (UInt8.ofNat (0xC0 + code / 64)).toNat = 0xC0 + code / 64 := toNat_ofNat (by omega)
  have second : (UInt8.ofNat (0x80 + code % 64)).toNat = 0x80 + code % 64 := toNat_ofNat (by omega)
  have notOne : ¬(UInt8.ofNat (0xC0 + code / 64)).toNat < 0x80 := by omega
  have ofTwo : 0xC2 ≤ (UInt8.ofNat (0xC0 + code / 64)).toNat ∧
      (UInt8.ofNat (0xC0 + code / 64)).toNat ≤ 0xDF := by omega
  have goesOn : continues (UInt8.ofNat (0x80 + code % 64)) = true :=
    continues_of (by omega) (by omega)
  have joined : (0xC0 + code / 64 - 0xC0) * 64 + (0x80 + code % 64 - 0x80) = code := by omega
  unfold next
  rw [if_neg notOne, if_pos ofTwo, nextOfTwo, if_pos goesOn, lead]
  unfold payload
  rw [second, joined]

theorem next_three {code : Nat} (least : 0x800 ≤ code) (small : code < 0x10000)
    (valid : code < 0xD800 ∨ 0xDFFF < code) (rest : List UInt8) :
    next (UInt8.ofNat (0xE0 + code / 4096)) (UInt8.ofNat (0x80 + code / 64 % 64) ::
      UInt8.ofNat (0x80 + code % 64) :: rest) = (some (Char.ofNat code), rest) := by
  have lead : (UInt8.ofNat (0xE0 + code / 4096)).toNat = 0xE0 + code / 4096 :=
    toNat_ofNat (by omega)
  have second : (UInt8.ofNat (0x80 + code / 64 % 64)).toNat = 0x80 + code / 64 % 64 :=
    toNat_ofNat (by omega)
  have third : (UInt8.ofNat (0x80 + code % 64)).toNat = 0x80 + code % 64 := toNat_ofNat (by omega)
  have notOne : ¬(UInt8.ofNat (0xE0 + code / 4096)).toNat < 0x80 := by omega
  have notTwo : ¬(0xC2 ≤ (UInt8.ofNat (0xE0 + code / 4096)).toNat ∧
      (UInt8.ofNat (0xE0 + code / 4096)).toNat ≤ 0xDF) := by omega
  have ofThree : 0xE0 ≤ (UInt8.ofNat (0xE0 + code / 4096)).toNat ∧
      (UInt8.ofNat (0xE0 + code / 4096)).toNat ≤ 0xEF := by omega
  -- The two bounds on the second octet keep out what `least` and `valid` keep out of the code.
  have follows : followsInThree (UInt8.ofNat (0xE0 + code / 4096))
      (UInt8.ofNat (0x80 + code / 64 % 64)) = true := by
    simp only [followsInThree, lead, second, Bool.and_eq_true, decide_eq_true_eq]
    split <;> split <;> omega
  have goesOn : continues (UInt8.ofNat (0x80 + code % 64)) = true :=
    continues_of (by omega) (by omega)
  have joined : (0xE0 + code / 4096 - 0xE0) * 4096 + (0x80 + code / 64 % 64 - 0x80) * 64 +
      (0x80 + code % 64 - 0x80) = code := by omega
  unfold next
  rw [if_neg notOne, if_neg notTwo, if_pos ofThree, nextOfThree, if_pos follows, if_pos goesOn,
    lead]
  unfold payload
  rw [second, third, joined]

theorem next_four {code : Nat} (least : 0x10000 ≤ code) (small : code < 0x110000)
    (rest : List UInt8) :
    next (UInt8.ofNat (0xF0 + code / 262144)) (UInt8.ofNat (0x80 + code / 4096 % 64) ::
      UInt8.ofNat (0x80 + code / 64 % 64) :: UInt8.ofNat (0x80 + code % 64) :: rest) =
      (some (Char.ofNat code), rest) := by
  have lead : (UInt8.ofNat (0xF0 + code / 262144)).toNat = 0xF0 + code / 262144 :=
    toNat_ofNat (by omega)
  have second : (UInt8.ofNat (0x80 + code / 4096 % 64)).toNat = 0x80 + code / 4096 % 64 :=
    toNat_ofNat (by omega)
  have third : (UInt8.ofNat (0x80 + code / 64 % 64)).toNat = 0x80 + code / 64 % 64 :=
    toNat_ofNat (by omega)
  have fourth : (UInt8.ofNat (0x80 + code % 64)).toNat = 0x80 + code % 64 := toNat_ofNat (by omega)
  have notOne : ¬(UInt8.ofNat (0xF0 + code / 262144)).toNat < 0x80 := by omega
  have notTwo : ¬(0xC2 ≤ (UInt8.ofNat (0xF0 + code / 262144)).toNat ∧
      (UInt8.ofNat (0xF0 + code / 262144)).toNat ≤ 0xDF) := by omega
  have notThree : ¬(0xE0 ≤ (UInt8.ofNat (0xF0 + code / 262144)).toNat ∧
      (UInt8.ofNat (0xF0 + code / 262144)).toNat ≤ 0xEF) := by omega
  have ofFour : 0xF0 ≤ (UInt8.ofNat (0xF0 + code / 262144)).toNat ∧
      (UInt8.ofNat (0xF0 + code / 262144)).toNat ≤ 0xF4 := by omega
  have follows : followsInFour (UInt8.ofNat (0xF0 + code / 262144))
      (UInt8.ofNat (0x80 + code / 4096 % 64)) = true := by
    simp only [followsInFour, lead, second, Bool.and_eq_true, decide_eq_true_eq]
    split <;> split <;> omega
  have thirdGoesOn : continues (UInt8.ofNat (0x80 + code / 64 % 64)) = true :=
    continues_of (by omega) (by omega)
  have fourthGoesOn : continues (UInt8.ofNat (0x80 + code % 64)) = true :=
    continues_of (by omega) (by omega)
  have joined : (0xF0 + code / 262144 - 0xF0) * 262144 + (0x80 + code / 4096 % 64 - 0x80) * 4096 +
      (0x80 + code / 64 % 64 - 0x80) * 64 + (0x80 + code % 64 - 0x80) = code := by omega
  unfold next
  rw [if_neg notOne, if_neg notTwo, if_neg notThree, if_pos ofFour, nextOfFour, if_pos follows,
    if_pos thirdGoesOn, if_pos fourthGoesOn, lead]
  unfold payload
  rw [second, third, fourth, joined]

/-- **The octets of a character are read as that character, whatever follows them.** -/
theorem next_encodeChar (c : Char) (rest : List UInt8) :
    ∃ lead more, encodeChar c = lead :: more ∧ next lead (more ++ rest) = (some c, rest) := by
  have valid := toNat_valid c
  have same : Char.ofNat c.toNat = c := Char.ofNat_toNat c
  unfold encodeChar
  dsimp only
  by_cases one : c.toNat < 0x80
  · rw [if_pos one]
    refine ⟨_, _, rfl, ?_⟩
    rw [List.nil_append, next_one one, same]
  rw [if_neg one]
  by_cases two : c.toNat < 0x800
  · rw [if_pos two]
    refine ⟨_, _, rfl, ?_⟩
    have read := next_two (Nat.le_of_not_lt one) two rest
    rw [same] at read
    exact read
  rw [if_neg two]
  by_cases three : c.toNat < 0x10000
  · rw [if_pos three]
    refine ⟨_, _, rfl, ?_⟩
    have read := next_three (Nat.le_of_not_lt two) three (by omega) rest
    rw [same] at read
    exact read
  · rw [if_neg three]
    refine ⟨_, _, rfl, ?_⟩
    have read := next_four (Nat.le_of_not_lt three) (by omega) rest
    rw [same] at read
    exact read

theorem encodeChar_plain {c : Char} (plain : c.toNat < 0x80) :
    encodeChar c = [UInt8.ofNat c.toNat] :=
  if_pos plain

/-- No octet of a character outside ASCII is one of ASCII. -/
theorem encodeChar_high {c : Char} (high : 0x80 ≤ c.toNat) :
    ∀ octet ∈ encodeChar c, 0x80 ≤ octet.toNat := by
  have valid := toNat_valid c
  have above : ∀ code, 0x80 ≤ code → code < 256 → 0x80 ≤ (UInt8.ofNat code).toNat := by
    intro code least small
    rw [toNat_ofNat small]
    exact least
  unfold encodeChar
  dsimp only
  rw [if_neg (Nat.not_lt.mpr high)]
  split
  · simp only [List.forall_mem_cons]
    exact ⟨above _ (by omega) (by omega), above _ (by omega) (by omega), List.forall_mem_nil _⟩
  · split
    · simp only [List.forall_mem_cons]
      exact ⟨above _ (by omega) (by omega), above _ (by omega) (by omega),
        above _ (by omega) (by omega), List.forall_mem_nil _⟩
    · simp only [List.forall_mem_cons]
      exact ⟨above _ (by omega) (by omega), above _ (by omega) (by omega),
        above _ (by omega) (by omega), above _ (by omega) (by omega), List.forall_mem_nil _⟩

/-! ### Texts -/

@[simp]
theorem encode_append (first second : List Char) :
    encode (first ++ second) = encode first ++ encode second :=
  List.flatMap_append

@[simp]
theorem encode_cons (c : Char) (rest : List Char) :
    encode (c :: rest) = encodeChar c ++ encode rest :=
  List.flatMap_cons

/-- **The octets of a text are read as that text.** -/
theorem decode_encode (text : List Char) : decode (encode text) = .ok text := by
  induction text with
  | nil => exact decode.eq_1
  | cons c rest ih =>
    obtain ⟨lead, more, octets, read⟩ := next_encodeChar c (encode rest)
    rw [encode_cons, octets, List.cons_append, decode]
    simp only [read, ih]

end TouchDispatch.Text.Utf8
