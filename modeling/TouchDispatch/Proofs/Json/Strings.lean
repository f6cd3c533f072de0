/-
**A string is read as it was written.**

* `readContents_escapeChar`: each character comes back, whether it was escaped or not;
* `readString_quote`: **a quoted text is read as that text, whatever follows it.**
-/

import TouchDispatch.Json.Printer
import TouchDispatch.Json.Reader
import TouchDispatch.Proofs.Text.Encoding

namespace TouchDispatch.Json

open TouchDispatch.Text

/-! ### Octets that are no escapes -/

theorem readContents_raw {octet : UInt8} {tail octets left : List UInt8} (noQuote : octet ≠ 34)
    (noEscape : octet ≠ 92) (noControl : ¬octet.toNat < 0x20)
    (read : readContents tail = .ok (octets, left)) :
    readContents (octet :: tail) = .ok (octet :: octets, left) := by
  rw [readContents, if_neg noQuote, if_neg noEscape, if_neg noControl, read]

theorem readContents_raws {raws tail octets left : List UInt8}
    (raw : ∀ octet ∈ raws, octet ≠ 34 ∧ octet ≠ 92 ∧ ¬octet.toNat < 0x20)
    (read : readContents tail = .ok (octets, left)) :
    readContents (raws ++ tail) = .ok (raws ++ octets, left) := by
  induction raws with
  | nil => exact read
  | cons octet rest ih =>
    obtain ⟨noQuote, noEscape, noControl⟩ := raw octet List.mem_cons_self
    exact readContents_raw noQuote noEscape noControl
      (ih fun other member => raw other (List.mem_cons_of_mem _ member))

/-! ### Escapes -/

theorem readContents_escape {tail after octets left : List UInt8} {c : Char}
    (escaped : readEscape tail = .ok (c, after))
    (read : readContents after = .ok (octets, left)) :
    readContents (92 :: tail) = .ok (Utf8.encodeChar c ++ octets, left) := by
  rw [readContents, if_neg (by decide), if_pos rfl]
  split
  · next refused =>
    rw [escaped] at refused
    cases refused
  · next c' after' accepted =>
    rw [escaped] at accepted
    cases accepted
    rw [read]

theorem hexValue?_hexDigit : ∀ n < 16, hexValue? (UInt8.ofNat (hexDigit n).toNat) = some n := by
  decide

theorem hexDigit_plain : ∀ n < 16, (hexDigit n).toNat < 0x80 := by
  decide

/-- A control character comes back from its code. -/
theorem readEscape_control {c : Char} (control : c.toNat < 0x20) (tail : List UInt8) :
    readEscape (117 :: 48 :: 48 :: UInt8.ofNat (hexDigit (c.toNat / 16)).toNat ::
      UInt8.ofNat (hexDigit (c.toNat % 16)).toNat :: tail) = .ok (c, tail) := by
  have zero : hexValue? 48 = some 0 := rfl
  have high := hexValue?_hexDigit (c.toNat / 16) (by omega)
  have low := hexValue?_hexDigit (c.toNat % 16) (by omega)
  have code : ((0 * 16 + 0) * 16 + c.toNat / 16) * 16 + c.toNat % 16 = c.toNat := by omega
  have noTrail : ¬(0xDC00 ≤ c.toNat ∧ c.toNat ≤ 0xDFFF) := by omega
  have noLead : ¬(0xD800 ≤ c.toNat ∧ c.toNat ≤ 0xDBFF) := by omega
  rw [readEscape, if_pos rfl, readUnicode, readHex]
  simp only [zero, high, low, code]
  rw [if_neg noTrail, if_neg noLead, Char.ofNat_toNat]

/-- **Each character comes back, whether it was escaped or not.** -/
theorem readContents_escapeChar (c : Char) {tail octets left : List UInt8}
    (read : readContents tail = .ok (octets, left)) :
    readContents (Utf8.encode (escapeChar c) ++ tail) =
      .ok (Utf8.encodeChar c ++ octets, left) := by
  have letter : ∀ mark : Char, mark.toNat < 0x80 → UInt8.ofNat mark.toNat ≠ 117 →
      letterEscape? (UInt8.ofNat mark.toNat) = some c →
      readContents (Utf8.encode ['\\', mark] ++ tail) =
        .ok (Utf8.encodeChar c ++ octets, left) := by
    intro mark plain noCode means
    have escaped : readEscape (UInt8.ofNat mark.toNat :: tail) = .ok (c, tail) := by
      rw [readEscape, if_neg noCode, means]
    rw [Utf8.encode_cons, Utf8.encode_cons, Utf8.encodeChar_plain plain]
    exact readContents_escape escaped read
  unfold escapeChar
  split
  · next quote => exact letter '"' (by decide) (by decide) (by rw [quote]; rfl)
  split
  · next backslash => exact letter '\\' (by decide) (by decide) (by rw [backslash]; rfl)
  split
  · next backspace => exact letter 'b' (by decide) (by decide) (by rw [backspace]; rfl)
  split
  · next formFeed => exact letter 'f' (by decide) (by decide) (by rw [formFeed]; rfl)
  split
  · next lineFeed => exact letter 'n' (by decide) (by decide) (by rw [lineFeed]; rfl)
  split
  · next carriageReturn => exact letter 'r' (by decide) (by decide) (by rw [carriageReturn]; rfl)
  split
  · next tab => exact letter 't' (by decide) (by decide) (by rw [tab]; rfl)
  split
  · next control =>
    have high := Utf8.encodeChar_plain (hexDigit_plain (c.toNat / 16) (by omega))
    have low := Utf8.encodeChar_plain (hexDigit_plain (c.toNat % 16) (by omega))
    simp only [Utf8.encode_cons, high, low]
    exact readContents_escape (readEscape_control control tail) read
  · next noQuote noBackslash _ _ _ _ _ noControl =>
    rw [Utf8.encode_cons, Utf8.encode, List.flatMap_nil, List.append_nil]
    refine readContents_raws ?_ read
    by_cases plain : c.toNat < 0x80
    · rw [Utf8.encodeChar_plain plain]
      intro octet member
      obtain rfl := List.mem_singleton.mp member
      have code : (UInt8.ofNat c.toNat).toNat = c.toNat := Utf8.toNat_ofNat (by omega)
      refine ⟨fun quote => noQuote ?_, fun backslash => noBackslash ?_, by omega⟩
      · rw [← Char.ofNat_toNat c, ← code, quote]
        rfl
      · rw [← Char.ofNat_toNat c, ← code, backslash]
        rfl
    · intro octet member
      have high := Utf8.encodeChar_high (Nat.le_of_not_lt plain) octet member
      refine ⟨?_, ?_, by omega⟩
      · rintro rfl
        exact absurd high (by decide)
      · rintro rfl
        exact absurd high (by decide)

theorem readContents_quoted (text : List Char) (rest : List UInt8) :
    readContents (Utf8.encode (text.flatMap escapeChar ++ ['"']) ++ rest) =
      .ok (Utf8.encode text, rest) := by
  induction text with
  | nil => exact readContents.eq_2 34 rest ▸ if_pos rfl
  | cons c others ih =>
    rw [List.flatMap_cons, List.append_assoc, Utf8.encode_append, List.append_assoc,
      Utf8.encode_cons]
    exact readContents_escapeChar c ih

/-- The octets of a quoted text begin with a quote. -/
theorem encode_quote (text : String) :
    Utf8.encode (quote text) = 34 :: Utf8.encode (text.toList.flatMap escapeChar ++ ['"']) :=
  rfl

/-- **A quoted text is read as that text, whatever follows it.** -/
theorem readString_quote (text : String) (rest : List UInt8) :
    readString (Utf8.encode (text.toList.flatMap escapeChar ++ ['"']) ++ rest) =
      .ok (text, rest) := by
  rw [readString, readContents_quoted]
  simp only [Utf8.decode_encode, String.ofList_toList]

end TouchDispatch.Json
