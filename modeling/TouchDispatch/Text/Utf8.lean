/-
**The UTF-8 encoding over lists of octets.**

* `encode`: the octets of a text;
* `next`: reads one character, or the longest run of octets that begins one and breaks off;
* `decode`: the text of a well-formed list of octets, or the place of the first ill-formed run;
* `decodeLossy`: the same with U+FFFD in the place of each ill-formed run.
-/

namespace TouchDispatch.Text.Utf8

/-- The octets of one character. -/
def encodeChar (c : Char) : List UInt8 :=
  let code := c.toNat
  if code < 0x80 then
    [UInt8.ofNat code]
  else if code < 0x800 then
    [UInt8.ofNat (0xC0 + code / 64), UInt8.ofNat (0x80 + code % 64)]
  else if code < 0x10000 then
    [UInt8.ofNat (0xE0 + code / 4096), UInt8.ofNat (0x80 + code / 64 % 64),
      UInt8.ofNat (0x80 + code % 64)]
  else
    [UInt8.ofNat (0xF0 + code / 262144), UInt8.ofNat (0x80 + code / 4096 % 64),
      UInt8.ofNat (0x80 + code / 64 % 64), UInt8.ofNat (0x80 + code % 64)]

/-- The octets of a text. -/
def encode (text : List Char) : List UInt8 :=
  text.flatMap encodeChar

/-- The octets of a string. -/
def octets (text : String) : List UInt8 :=
  encode text.toList

/-- An octet that continues a character: `10xxxxxx`. -/
def continues (octet : UInt8) : Bool :=
  0x80 ≤ octet.toNat && octet.toNat ≤ 0xBF

/-- The payload of a continuing octet. -/
def payload (octet : UInt8) : Nat :=
  octet.toNat - 0x80

/-- Whether `second` may follow `lead`, the first octet of a character of three. This keeps out
the overlong forms and the surrogates. -/
def followsInThree (lead second : UInt8) : Bool :=
  let low := if lead.toNat = 0xE0 then 0xA0 else 0x80
  let high := if lead.toNat = 0xED then 0x9F else 0xBF
  low ≤ second.toNat && second.toNat ≤ high

/-- Whether `second` may follow `lead`, the first octet of a character of four. This keeps out
the overlong forms and the codes above U+10FFFF. -/
def followsInFour (lead second : UInt8) : Bool :=
  let low := if lead.toNat = 0xF0 then 0x90 else 0x80
  let high := if lead.toNat = 0xF4 then 0x8F else 0xBF
  low ≤ second.toNat && second.toNat ≤ high

/-- What follows `lead` in a character of two octets. -/
def nextOfTwo (lead : UInt8) : List UInt8 → Option Char × List UInt8
  | second :: rest =>
    if continues second then
      (some (Char.ofNat ((lead.toNat - 0xC0) * 64 + payload second)), rest)
    else
      (none, second :: rest)
  | [] => (none, [])

/-- What follows `lead` in a character of three octets. -/
def nextOfThree (lead : UInt8) : List UInt8 → Option Char × List UInt8
  | second :: rest =>
    if followsInThree lead second then
      match rest with
      | third :: rest =>
        if continues third then
          (some (Char.ofNat ((lead.toNat - 0xE0) * 4096 + payload second * 64 + payload third)),
            rest)
        else
          (none, third :: rest)
      | [] => (none, [])
    else
      (none, second :: rest)
  | [] => (none, [])

/-- What follows `lead` in a character of four octets. -/
def nextOfFour (lead : UInt8) : List UInt8 → Option Char × List UInt8
  | second :: rest =>
    if followsInFour lead second then
      match rest with
      | third :: rest =>
        if continues third then
          match rest with
          | fourth :: rest =>
            if continues fourth then
              (some (Char.ofNat ((lead.toNat - 0xF0) * 262144 + payload second * 4096 +
                payload third * 64 + payload fourth)), rest)
            else
              (none, fourth :: rest)
          | [] => (none, [])
        else
          (none, third :: rest)
      | [] => (none, [])
    else
      (none, second :: rest)
  | [] => (none, [])

/-- Reads one character that begins with the octet `lead`. The answer is `none` when the octets
break off or go wrong; either way it comes with the octets that are left. -/
def next (lead : UInt8) (rest : List UInt8) : Option Char × List UInt8 :=
  if lead.toNat < 0x80 then (some (Char.ofNat lead.toNat), rest)
  else if 0xC2 ≤ lead.toNat ∧ lead.toNat ≤ 0xDF then nextOfTwo lead rest
  else if 0xE0 ≤ lead.toNat ∧ lead.toNat ≤ 0xEF then nextOfThree lead rest
  else if 0xF0 ≤ lead.toNat ∧ lead.toNat ≤ 0xF4 then nextOfFour lead rest
  else (none, rest)

/-- Reading a character never adds octets. -/
theorem length_next_le (lead : UInt8) (rest : List UInt8) :
    (next lead rest).2.length ≤ rest.length := by
  unfold next
  split
  · exact Nat.le_refl _
  split
  · unfold nextOfTwo
    repeat' split
    all_goals simp
  split
  · unfold nextOfThree
    repeat' split
    all_goals simp
    all_goals omega
  split
  · unfold nextOfFour
    repeat' split
    all_goals simp
    all_goals omega
  · exact Nat.le_refl _

/-- The text of a well-formed list of octets; otherwise the number of octets before the first
ill-formed run. -/
def decode : List UInt8 → Except Nat (List Char)
  | [] => .ok []
  | lead :: rest =>
    match (next lead rest).1 with
    | none => .error 0
    | some c =>
      match decode (next lead rest).2 with
      | .ok text => .ok (c :: text)
      | .error place => .error (rest.length + 1 - (next lead rest).2.length + place)
termination_by octets => octets.length
decreasing_by exact Nat.lt_succ_of_le (length_next_le lead rest)

/-- The string of a well-formed list of octets. -/
def string? (octets : List UInt8) : Option String :=
  match decode octets with
  | .ok text => some (String.ofList text)
  | .error _ => none

/-- The text of a list of octets, with U+FFFD in the place of each ill-formed run. -/
def decodeLossy : List UInt8 → List Char
  | [] => []
  | lead :: rest =>
    (next lead rest).1.getD '\uFFFD' :: decodeLossy (next lead rest).2
termination_by octets => octets.length
decreasing_by exact Nat.lt_succ_of_le (length_next_le lead rest)

/-- The string of a list of octets, with U+FFFD in the place of each ill-formed run. -/
def stringLossy (octets : List UInt8) : String :=
  String.ofList (decodeLossy octets)

end TouchDispatch.Text.Utf8
