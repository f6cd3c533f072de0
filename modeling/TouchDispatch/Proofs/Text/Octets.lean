/-
**A text is its octets.**

* `octets_of_next`: only the octets of a character are read as that character;
* `decode_eq_ok_iff`, `string?_eq_some_iff`: **a list of octets is well-formed exactly if it is that
  of a text, and is read as that text**;
* `encodeChar_lt`: a lesser character has lesser octets, whatever follows them;
* `octets_lt_iff`, `octets_le_iff`: **texts are in the order of their octets.**
-/

import TouchDispatch.Proofs.Text.Encoding

namespace TouchDispatch.Text.Utf8

/-! ### What is well-formed -/

section Reading

variable {lead second third fourth : UInt8} {octets rest more : List UInt8} {c : Char}
  {text : List Char}

theorem toNat_char {code : Nat} (valid : code < 0xD800 ∨ 0xDFFF < code ∧ code < 0x110000) :
    (Char.ofNat code).toNat = code := by
  rw [Char.ofNat, dif_pos valid]
  rfl

theorem octet_eq (lead : UInt8) {code : Nat} (same : code = lead.toNat) :
    UInt8.ofNat code = lead := by
  rw [same, UInt8.ofNat_toNat]

theorem bounds_of_continues (goesOn : continues lead = true) :
    0x80 ≤ lead.toNat ∧ lead.toNat ≤ 0xBF := by
  simpa [continues] using goesOn

theorem bounds_in_three (follows : followsInThree lead second = true) :
    0x80 ≤ second.toNat ∧ second.toNat ≤ 0xBF ∧ (lead.toNat = 0xE0 → 0xA0 ≤ second.toNat) ∧
      (lead.toNat = 0xED → second.toNat ≤ 0x9F) := by
  simp only [followsInThree, Bool.and_eq_true, decide_eq_true_eq] at follows
  obtain ⟨low, high⟩ := follows
  split at low <;> split at high <;> omega

theorem bounds_in_four (follows : followsInFour lead second = true) :
    0x80 ≤ second.toNat ∧ second.toNat ≤ 0xBF ∧ (lead.toNat = 0xF0 → 0x90 ≤ second.toNat) ∧
      (lead.toNat = 0xF4 → second.toNat ≤ 0x8F) := by
  simp only [followsInFour, Bool.and_eq_true, decide_eq_true_eq] at follows
  obtain ⟨low, high⟩ := follows
  split at low <;> split at high <;> omega

theorem encodeChar_two (least : 0xC2 ≤ lead.toNat) (most : lead.toNat ≤ 0xDF)
    (goesOn : continues second = true) :
    encodeChar (Char.ofNat ((lead.toNat - 0xC0) * 64 + payload second)) = [lead, second] := by
  obtain ⟨low, high⟩ := bounds_of_continues goesOn
  unfold payload encodeChar
  rw [toNat_char (by omega)]
  dsimp only
  rw [if_neg (by omega), if_pos (by omega), octet_eq lead (by omega), octet_eq second (by omega)]

theorem encodeChar_three (least : 0xE0 ≤ lead.toNat) (most : lead.toNat ≤ 0xEF)
    (follows : followsInThree lead second = true) (goesOn : continues third = true) :
    encodeChar (Char.ofNat ((lead.toNat - 0xE0) * 4096 + payload second * 64 + payload third)) =
      [lead, second, third] := by
  obtain ⟨low, high, overlong, surrogate⟩ := bounds_in_three follows
  obtain ⟨lowThird, highThird⟩ := bounds_of_continues goesOn
  unfold payload encodeChar
  rw [toNat_char (by omega)]
  dsimp only
  rw [if_neg (by omega), if_neg (by omega), if_pos (by omega), octet_eq lead (by omega),
    octet_eq second (by omega), octet_eq third (by omega)]

theorem encodeChar_four (least : 0xF0 ≤ lead.toNat) (most : lead.toNat ≤ 0xF4)
    (follows : followsInFour lead second = true) (goesOn : continues third = true)
    (ends : continues fourth = true) :
    encodeChar (Char.ofNat ((lead.toNat - 0xF0) * 262144 + payload second * 4096 +
      payload third * 64 + payload fourth)) = [lead, second, third, fourth] := by
  obtain ⟨low, high, overlong, beyond⟩ := bounds_in_four follows
  obtain ⟨lowThird, highThird⟩ := bounds_of_continues goesOn
  obtain ⟨lowFourth, highFourth⟩ := bounds_of_continues ends
  unfold payload encodeChar
  rw [toNat_char (by omega)]
  dsimp only
  rw [if_neg (by omega), if_neg (by omega), if_neg (by omega), octet_eq lead (by omega),
    octet_eq second (by omega), octet_eq third (by omega), octet_eq fourth (by omega)]

theorem octets_of_two (least : 0xC2 ≤ lead.toNat) (most : lead.toNat ≤ 0xDF)
    (read : nextOfTwo lead rest = (some c, more)) : lead :: rest = encodeChar c ++ more := by
  unfold nextOfTwo at read
  split at read
  · split at read
    · next goesOn =>
      obtain ⟨same, rfl⟩ := Prod.mk.inj read
      rw [← Option.some.inj same, encodeChar_two least most goesOn]
      rfl
    · cases read
  · cases read

theorem octets_of_three (least : 0xE0 ≤ lead.toNat) (most : lead.toNat ≤ 0xEF)
    (read : nextOfThree lead rest = (some c, more)) : lead :: rest = encodeChar c ++ more := by
  unfold nextOfThree at read
  split at read
  · split at read
    · next follows =>
      split at read
      · split at read
        · next goesOn =>
          obtain ⟨same, rfl⟩ := Prod.mk.inj read
          rw [← Option.some.inj same, encodeChar_three least most follows goesOn]
          rfl
        · cases read
      · cases read
    · cases read
  · cases read

theorem octets_of_four (least : 0xF0 ≤ lead.toNat) (most : lead.toNat ≤ 0xF4)
    (read : nextOfFour lead rest = (some c, more)) : lead :: rest = encodeChar c ++ more := by
  unfold nextOfFour at read
  split at read
  · split at read
    · next follows =>
      split at read
      · split at read
        · next goesOn =>
          split at read
          · split at read
            · next ends =>
              obtain ⟨same, rfl⟩ := Prod.mk.inj read
              rw [← Option.some.inj same, encodeChar_four least most follows goesOn ends]
              rfl
            · cases read
          · cases read
        · cases read
      · cases read
    · cases read
  · cases read

/-- **Only the octets of a character are read as that character.** -/
theorem octets_of_next (read : next lead rest = (some c, more)) :
    lead :: rest = encodeChar c ++ more := by
  unfold next at read
  split at read
  · next plain =>
    obtain ⟨same, rfl⟩ := Prod.mk.inj read
    have code : c.toNat = lead.toNat := by
      rw [← Option.some.inj same, toNat_char (by omega)]
    rw [encodeChar_plain (by rw [code]; exact plain), octet_eq lead code]
    rfl
  split at read
  · next two => exact octets_of_two two.1 two.2 read
  split at read
  · next three => exact octets_of_three three.1 three.2 read
  split at read
  · next four => exact octets_of_four four.1 four.2 read
  · cases read

theorem encode_of_decode (read : decode octets = .ok text) : octets = encode text := by
  fun_induction decode octets generalizing text with
  | case1 => cases read; rfl
  | case2 lead rest failed => cases read
  | case3 lead rest c first tail whole ih =>
    cases read
    rw [encode_cons, ← ih whole]
    exact octets_of_next (Prod.ext first rfl)
  | case4 lead rest c first place broken ih => cases read

/-- **A list of octets is well-formed exactly if it is that of a text**, and is read as that
text. -/
theorem decode_eq_ok_iff : decode octets = .ok text ↔ octets = encode text := by
  constructor
  · exact encode_of_decode
  · rintro rfl
    exact decode_encode text

theorem string?_eq_some_iff {text : String} :
    string? octets = some text ↔ octets = Utf8.octets text := by
  have whole : string? octets = some text ↔ decode octets = .ok text.toList := by
    unfold string?
    cases decode octets with
    | ok chars =>
      constructor
      · intro same
        rw [← Option.some.inj same, String.toList_ofList]
      · intro same
        rw [Except.ok.inj same]
        exact congrArg some String.ofList_toList
    | error place => exact iff_of_false nofun nofun
  rw [whole, decode_eq_ok_iff]
  rfl

theorem octets_injective {first second : String}
    (same : Utf8.octets first = Utf8.octets second) : first = second := by
  have read : string? (Utf8.octets first) = some second := string?_eq_some_iff.mpr same
  rw [string?_eq_some_iff.mpr rfl] at read
  exact Option.some.inj read

end Reading

/-! ### The order -/

section Order

variable {c d : Char} {first second : List Char}

theorem octet_lt_iff {code other : Nat} (small : code < 256) (smallOther : other < 256) :
    UInt8.ofNat code < UInt8.ofNat other ↔ code < other := by
  rw [UInt8.lt_iff_toNat_lt, toNat_ofNat small, toNat_ofNat smallOther]

theorem octet_inj {code other : Nat} (small : code < 256) (smallOther : other < 256) :
    UInt8.ofNat code = UInt8.ofNat other ↔ code = other := by
  rw [← UInt8.toNat_inj, toNat_ofNat small, toNat_ofNat smallOther]

/-- **A lesser character has lesser octets**, whatever follows them. -/
theorem encodeChar_lt (less : c < d) (rest more : List UInt8) :
    encodeChar c ++ rest < encodeChar d ++ more := by
  have codes : c.toNat < d.toNat := less
  have valid := toNat_valid c
  have validOther := toNat_valid d
  unfold encodeChar
  dsimp only
  have next : ∀ code other, code < 256 → other < 256 → ∀ tail behind : List UInt8,
      (UInt8.ofNat code :: tail < UInt8.ofNat other :: behind ↔
        code < other ∨ code = other ∧ tail < behind) := by
    intro code other small smallOther tail behind
    rw [List.cons_lt_cons_iff, octet_lt_iff small smallOther, octet_inj small smallOther]
  -- The first octet tells how many there are, and more of them stand for greater characters.
  repeat' split
  all_goals
    simp (disch := omega) only [List.cons_append, next]
    omega

theorem encode_lt (less : first < second) : encode first < encode second := by
  induction less with
  | @nil c rest =>
    obtain ⟨lead, more, octets, _⟩ := next_encodeChar c []
    rw [encode_cons, octets]
    exact List.Lex.nil
  | @rel c rest d more less => exact encodeChar_lt less _ _
  | cons _ ih =>
    rw [encode_cons, encode_cons]
    exact List.append_left_lt ih

/-- **Texts are in the order of their octets.** -/
theorem octets_lt_iff {first second : String} : octets first < octets second ↔ first < second := by
  change _ ↔ first.toList < second.toList
  constructor
  · intro less
    rcases Std.lt_trichotomy first.toList second.toList with before | same | after
    · exact before
    · rw [String.toList_inj.mp same] at less
      exact absurd less (List.lt_irrefl _)
    · exact absurd (encode_lt after) (List.lt_asymm less)
  · exact encode_lt

theorem octets_le_iff {first second : String} : octets first ≤ octets second ↔ first ≤ second :=
  not_congr octets_lt_iff

end Order

end TouchDispatch.Text.Utf8
