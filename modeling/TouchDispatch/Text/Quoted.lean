/-
**Texts between quotes, for messages.**

A quote, a backslash and the usual controls are written with a backslash; any other character
without a glyph of its own is written by its code in hexadecimal:

* `Quoted.char`: one character;
* `Quoted.text`: a text with its quotes.
-/

import TouchDispatch.Text.Glyphless

namespace TouchDispatch.Text.Quoted

/-- The code of a character in lower-case hexadecimal, between braces after a backslash and a u. -/
def byCode (c : Char) : List Char :=
  '\\' :: 'u' :: '\x7b' :: Nat.toDigits 16 c.toNat ++ ['\x7d']

/-- One character between quotes. -/
def char (c : Char) : List Char :=
  if c = '\x00' then ['\\', '0']
  else if c = '\t' then ['\\', 't']
  else if c = '\r' then ['\\', 'r']
  else if c = '\n' then ['\\', 'n']
  else if c = '"' then ['\\', '"']
  else if c = '\\' then ['\\', '\\']
  else if isGlyphless c then byCode c
  else [c]

/-- A text with its quotes. -/
def text (content : List Char) : List Char :=
  '"' :: content.flatMap char ++ ['"']

end TouchDispatch.Text.Quoted
