/-
**Reading JSON documents.**

* `readString`: a string from the octet after its opening quote on;
* `readValue`: a value, its items and its members, down to `depthLimit` levels;
* `document`: a text that is one JSON value;
* `object`: a text that is one JSON object. Any other value is refused by naming what it is.

The readers of values take an amount of fuel that bounds their recursion. An octet is read at
least once in three steps, so `fuelFor` is always enough, and the entry points supply it.
-/

import TouchDispatch.Json.Numeral
import TouchDispatch.Text.Utf8

namespace TouchDispatch.Json

open TouchDispatch.Text

/-- The number of levels at which reading stops: an opening bracket at this depth is refused. -/
def depthLimit : Nat := 128

/-- White space between tokens: space, tab, line feed and carriage return. -/
def isSpace (octet : UInt8) : Bool :=
  octet == 32 || octet == 9 || octet == 10 || octet == 13

/-- The input without its leading white space. -/
def skipSpace (input : List UInt8) : List UInt8 :=
  input.dropWhile isSpace

/-! ### Strings -/

/-- The number that a hexadecimal digit stands for. -/
def hexValue? (octet : UInt8) : Option Nat :=
  let code := octet.toNat
  if 48 ≤ code ∧ code ≤ 57 then some (code - 48)
  else if 65 ≤ code ∧ code ≤ 70 then some (code - 55)
  else if 97 ≤ code ∧ code ≤ 102 then some (code - 87)
  else none

/-- Four hexadecimal digits. -/
def readHex : List UInt8 → Reading Nat
  | a :: b :: c :: d :: rest =>
    match hexValue? a, hexValue? b, hexValue? c, hexValue? d with
    | some a, some b, some c, some d => .ok (((a * 16 + b) * 16 + c) * 16 + d, rest)
    | _, _, _, _ => stopHere .invalidEscape rest
  | _ => stopHere .endInString []

/-- The second half of a surrogate pair, from its backslash on. -/
def readTrail : List UInt8 → Reading Nat
  | [] => stopHere .endInString []
  | first :: rest =>
    if first = 92 then
      match rest with
      | [] => stopHere .endInString []
      | second :: rest =>
        if second = 117 then
          match readHex rest with
          | .error stop => .error stop
          | .ok (code, rest) =>
            if 0xDC00 ≤ code ∧ code ≤ 0xDFFF then .ok (code, rest)
            else stopHere .loneSurrogate rest
        else stopHere .endOfSurrogate rest
    else stopHere .endOfSurrogate rest

/-- The character of a hexadecimal escape, from the octet after its `u` on. -/
def readUnicode (input : List UInt8) : Reading Char :=
  match readHex input with
  | .error stop => .error stop
  | .ok (code, rest) =>
    if 0xDC00 ≤ code ∧ code ≤ 0xDFFF then stopHere .loneSurrogate rest
    else if 0xD800 ≤ code ∧ code ≤ 0xDBFF then
      match readTrail rest with
      | .error stop => .error stop
      | .ok (trail, rest) =>
        .ok (Char.ofNat ((code - 0xD800) * 1024 + (trail - 0xDC00) + 0x10000), rest)
    else .ok (Char.ofNat code, rest)

/-- The character of an escape of one letter. -/
def letterEscape? (letter : UInt8) : Option Char :=
  if letter = 34 then some '"'
  else if letter = 92 then some '\\'
  else if letter = 47 then some '/'
  else if letter = 98 then some '\x08'
  else if letter = 102 then some '\x0c'
  else if letter = 110 then some '\n'
  else if letter = 114 then some '\r'
  else if letter = 116 then some '\t'
  else none

/-- The character of an escape, from the octet after its backslash on. -/
def readEscape : List UInt8 → Reading Char
  | [] => stopHere .endInString []
  | letter :: rest =>
    if letter = 117 then readUnicode rest
    else
      match letterEscape? letter with
      | some c => .ok (c, rest)
      | none => stopHere .invalidEscape rest

theorem length_of_readHex {input rest : List UInt8} {code : Nat}
    (read : readHex input = .ok (code, rest)) : rest.length < input.length := by
  unfold readHex at read
  split at read
  · split at read
    · cases read
      simp only [List.length_cons]
      omega
    · simp [stopHere] at read
  · simp [stopHere] at read

theorem length_of_readTrail {input rest : List UInt8} {code : Nat}
    (read : readTrail input = .ok (code, rest)) : rest.length < input.length := by
  unfold readTrail at read
  split at read
  · simp [stopHere] at read
  split at read
  · split at read
    · simp [stopHere] at read
    split at read
    · split at read
      · simp at read
      · next hex =>
        have shorter := length_of_readHex hex
        split at read
        · cases read
          simp only [List.length_cons]
          omega
        · simp [stopHere] at read
    · simp [stopHere] at read
  · simp [stopHere] at read

theorem length_of_readUnicode {input rest : List UInt8} {c : Char}
    (read : readUnicode input = .ok (c, rest)) : rest.length < input.length := by
  unfold readUnicode at read
  split at read
  · simp at read
  · next hex =>
    have shorter := length_of_readHex hex
    split at read
    · simp [stopHere] at read
    split at read
    · split at read
      · simp at read
      · next trail =>
        simp only [Except.ok.injEq, Prod.mk.injEq] at read
        have := length_of_readTrail trail
        rw [← read.2]
        omega
    · simp only [Except.ok.injEq, Prod.mk.injEq] at read
      rw [← read.2]
      exact shorter

theorem length_of_readEscape {input rest : List UInt8} {c : Char}
    (read : readEscape input = .ok (c, rest)) : rest.length < input.length := by
  unfold readEscape at read
  split at read
  · simp [stopHere] at read
  split at read
  · have := length_of_readUnicode read
    simp only [List.length_cons]
    omega
  split at read
  · cases read
    simp
  · simp [stopHere] at read

/-- The octets of a string with its escapes replaced, up to its closing quote. -/
def readContents : List UInt8 → Reading (List UInt8)
  | [] => stopHere .endInString []
  | octet :: rest =>
    if octet = 34 then .ok ([], rest)
    else if octet = 92 then
      match escaped : readEscape rest with
      | .error stop => .error stop
      | .ok (c, after) =>
        have := length_of_readEscape escaped
        match readContents after with
        | .error stop => .error stop
        | .ok (octets, left) => .ok (Utf8.encodeChar c ++ octets, left)
    else if octet.toNat < 0x20 then stopHere .controlCharacter rest
    else
      match readContents rest with
      | .error stop => .error stop
      | .ok (octets, left) => .ok (octet :: octets, left)
termination_by input => input.length
decreasing_by
  · exact Nat.lt_succ_of_lt this
  · exact Nat.lt_succ_self _

/-- A string, from the octet after its opening quote on. Octets that are no UTF-8 are refused
once the string has come to its end and its escapes are replaced; the place of the refusal is as
far before the end as the replaced string still goes on. -/
def readString (input : List UInt8) : Reading String :=
  match readContents input with
  | .error stop => .error stop
  | .ok (octets, rest) =>
    match Utf8.decode octets with
    | .ok text => .ok (String.ofList text, rest)
    | .error place => .error ⟨.invalidCodePoint, rest.length + (octets.length - place)⟩

/-! ### Values -/

/-- The rest of a word of which the first letter has been read. -/
def readWord {α : Type} (result : α) : List UInt8 → List UInt8 → Reading α
  | [], rest => .ok (result, rest)
  | _ :: _, [] => stopHere .endInValue []
  | letter :: letters, octet :: rest =>
    if octet = letter then readWord result letters rest else stopHere .expectedIdent rest

/-- The octets of `ull`. -/
def nullTail : List UInt8 := [117, 108, 108]

/-- The octets of `rue`. -/
def trueTail : List UInt8 := [114, 117, 101]

/-- The octets of `alse`. -/
def falseTail : List UInt8 := [97, 108, 115, 101]

/-- The colon after a name. -/
def readColon (input : List UInt8) : Reading Unit :=
  match skipSpace input with
  | [] => stopHere .endInObject []
  | octet :: rest =>
    if octet = 58 then .ok ((), rest) else stopAtNext .expectedColon (octet :: rest)

mutual

/-- A value, with its leading white space. -/
def readValue (fuel depth : Nat) (input : List UInt8) : Reading Value :=
  match fuel with
  | 0 => stopHere .endInValue input
  | fuel + 1 =>
    match skipSpace input with
    | [] => stopHere .endInValue []
    | octet :: rest =>
      if octet = 110 then readWord .null nullTail rest
      else if octet = 116 then readWord (.bool true) trueTail rest
      else if octet = 102 then readWord (.bool false) falseTail rest
      else if octet = 45 then
        (readNumber true rest).map fun (number, rest) => (.number number, rest)
      else if isDigit octet then
        (readNumber false (octet :: rest)).map fun (number, rest) => (.number number, rest)
      else if octet = 34 then
        (readString rest).map fun (text, rest) => (.text text, rest)
      else if octet = 91 then
        if depth ≤ 1 then stopHere .tooDeep rest
        else (readItems fuel (depth - 1) true rest).map fun (items, rest) => (.array items, rest)
      else if octet = 123 then
        if depth ≤ 1 then stopHere .tooDeep rest
        else
          (readMembers fuel (depth - 1) true [] rest).map fun (members, rest) =>
            (.object members, rest)
      else stopAtNext .expectedValue (octet :: rest)

/-- The items of an array up to its closing bracket; `first` says that none has been read. -/
def readItems (fuel depth : Nat) (first : Bool) (input : List UInt8) : Reading (List Value) :=
  match fuel with
  | 0 => stopHere .endInList input
  | fuel + 1 =>
    match skipSpace input with
    | [] => stopHere .endInList []
    | octet :: rest =>
      if octet = 93 then .ok ([], rest)
      else if first then readItem fuel depth (octet :: rest)
      else if octet = 44 then
        match skipSpace rest with
        | [] => stopHere .endInValue []
        | next :: after =>
          if next = 93 then stopAtNext .trailingComma (next :: after)
          else readItem fuel depth (next :: after)
      else stopAtNext .expectedCommaOrBracket (octet :: rest)

/-- One item and those after it. -/
def readItem (fuel depth : Nat) (input : List UInt8) : Reading (List Value) :=
  match fuel with
  | 0 => stopHere .endInList input
  | fuel + 1 =>
    match readValue fuel depth input with
    | .error stop => .error stop
    | .ok (item, rest) =>
      (readItems fuel depth false rest).map fun (items, rest) => (item :: items, rest)

/-- The members of an object up to its closing brace, added to those already read. -/
def readMembers (fuel depth : Nat) (first : Bool) (members : Fields) (input : List UInt8) :
    Reading Fields :=
  match fuel with
  | 0 => stopHere .endInObject input
  | fuel + 1 =>
    match skipSpace input with
    | [] => stopHere .endInObject []
    | octet :: rest =>
      if octet = 125 then .ok (members, rest)
      else if first then
        if octet = 34 then readMember fuel depth members rest
        else stopAtNext .keyNotString (octet :: rest)
      else if octet = 44 then
        match skipSpace rest with
        | [] => stopHere .endInValue []
        | next :: after =>
          if next = 34 then readMember fuel depth members after
          else if next = 125 then stopAtNext .trailingComma (next :: after)
          else stopAtNext .keyNotString (next :: after)
      else stopAtNext .expectedCommaOrBrace (octet :: rest)

/-- One member, from the octet after the opening quote of its name on, and those after it. The
last member of a name counts. -/
def readMember (fuel depth : Nat) (members : Fields) (input : List UInt8) : Reading Fields :=
  match fuel with
  | 0 => stopHere .endInObject input
  | fuel + 1 =>
    match readString input with
    | .error stop => .error stop
    | .ok (name, rest) =>
      match readColon rest with
      | .error stop => .error stop
      | .ok ((), rest) =>
        match readValue fuel depth rest with
        | .error stop => .error stop
        | .ok (value, rest) => readMembers fuel depth false (members.insert name value) rest

end

/-! ### Documents -/

/-- Enough fuel for an input: at most three steps pass before an octet is read. -/
def fuelFor (input : List UInt8) : Nat :=
  3 * input.length + 3

/-- Nothing but white space may follow a document. -/
def finish {α : Type} (result : α) (rest : List UInt8) : Except Stop α :=
  match skipSpace rest with
  | [] => .ok result
  | rest => stopAtNext .trailingCharacters rest

/-- Finds the place of a refusal. -/
def located {α : Type} (input : List UInt8) : Except Stop α → Except Fault α
  | .ok result => .ok result
  | .error stop => .error (Fault.locate input stop)

/-- The value of a text that is one JSON value. -/
def document (input : List UInt8) : Except Fault Value :=
  located input <|
    match readValue (fuelFor input) depthLimit input with
    | .error stop => .error stop
    | .ok (value, rest) => finish value rest

/-- Refuses a value that is read to its end and is no object. -/
def refuse {α : Type} (found : Reading Found) : Except Stop α :=
  match found with
  | .error stop => .error stop
  | .ok (found, rest) => stopHere (.notAnObject found) rest

/-- The members of a value that has to be an object. Another value is read to its end and then
refused, except for an array, which is refused where it begins. -/
def readObject (input : List UInt8) : Except Stop Fields :=
  match skipSpace input with
  | [] => stopHere .endInValue []
  | octet :: rest =>
    if octet = 123 then
      match readMembers (fuelFor input) (depthLimit - 1) true [] rest with
      | .error stop => .error stop
      | .ok (members, rest) => finish members rest
    else if octet = 110 then refuse (readWord .null nullTail rest)
    else if octet = 116 then refuse (readWord (.bool true) trueTail rest)
    else if octet = 102 then refuse (readWord (.bool false) falseTail rest)
    else if octet = 45 then
      refuse ((readNumber true rest).map fun (number, rest) => (.number number, rest))
    else if isDigit octet then
      refuse ((readNumber false (octet :: rest)).map fun (number, rest) => (.number number, rest))
    else if octet = 34 then
      refuse ((readString rest).map fun (text, rest) => (.text text, rest))
    else if octet = 91 then stopHere (.notAnObject .sequence) (octet :: rest)
    else stopAtNext .expectedValue (octet :: rest)

/-- The members of a text that is one JSON object. -/
def object (input : List UInt8) : Except Fault Fields :=
  located input (readObject input)

end TouchDispatch.Json
