/-
**Writing JSON.**

* `compact`: a value on one line without blanks;
* `pretty`: a value with one item or member a line, indented by two spaces a level;
* `layout`: how floating-point numbers are laid out, here and in the messages.
-/

import TouchDispatch.Json.Value
import TouchDispatch.Number.Shortest

namespace TouchDispatch.Json

open TouchDispatch.Number TouchDispatch.Text

/-- Floating-point numbers from 1e-5 up to below 1e16 are written in positional notation. -/
def layout : Layout := ⟨-5, 15⟩

/-- The text of a number. -/
def Number.text : Number → List Char
  | .whole value => Decimal.integer value
  | .double value => layout.text value

/-- A hexadecimal digit in lower case. -/
def hexDigit (n : Nat) : Char :=
  Nat.digitChar n

/-- A character inside a string: a quote, a backslash and the control characters are escaped. -/
def escapeChar (c : Char) : List Char :=
  if c = '"' then ['\\', '"']
  else if c = '\\' then ['\\', '\\']
  else if c = '\x08' then ['\\', 'b']
  else if c = '\x0c' then ['\\', 'f']
  else if c = '\n' then ['\\', 'n']
  else if c = '\r' then ['\\', 'r']
  else if c = '\t' then ['\\', 't']
  else if c.toNat < 0x20 then
    ['\\', 'u', '0', '0', hexDigit (c.toNat / 16), hexDigit (c.toNat % 16)]
  else [c]

/-- A string between quotes. -/
def quote (text : String) : List Char :=
  '"' :: text.toList.flatMap escapeChar ++ ['"']

/-- The text of a boolean. -/
def boolText (value : Bool) : List Char :=
  (if value then "true" else "false").toList

mutual

/-- A value on one line, without blanks. -/
def Value.compact : Value → List Char
  | .null => "null".toList
  | .bool value => boolText value
  | .number value => value.text
  | .text value => quote value
  | .array items => '[' :: compactItems items ++ [']']
  | .object members => '\x7b' :: compactMembers members ++ ['\x7d']

/-- Items with commas between them. -/
def compactItems : List Value → List Char
  | [] => []
  | [item] => item.compact
  | item :: rest => item.compact ++ ',' :: compactItems rest

/-- Members with commas between them. -/
def compactMembers : List (String × Value) → List Char
  | [] => []
  | [(name, value)] => quote name ++ ':' :: value.compact
  | (name, value) :: rest => quote name ++ ':' :: value.compact ++ ',' :: compactMembers rest

end

/-- A line break and the indentation of a level. -/
def newLine (level : Nat) : List Char :=
  '\n' :: List.replicate (2 * level) ' '

mutual

/-- A value with one item or member a line, inside `level` brackets. -/
def Value.pretty (level : Nat) : Value → List Char
  | .null => "null".toList
  | .bool value => boolText value
  | .number value => value.text
  | .text value => quote value
  | .array [] => ['[', ']']
  | .array (item :: rest) =>
    '[' :: newLine (level + 1) ++ item.pretty (level + 1) ++ prettyItems level rest
  | .object [] => ['\x7b', '\x7d']
  | .object ((name, value) :: rest) =>
    '\x7b' :: newLine (level + 1) ++ quote name ++ ':' :: ' ' :: value.pretty (level + 1) ++
      prettyMembers level rest

/-- The items after the first, and the closing bracket. -/
def prettyItems (level : Nat) : List Value → List Char
  | [] => newLine level ++ [']']
  | item :: rest =>
    ',' :: newLine (level + 1) ++ item.pretty (level + 1) ++ prettyItems level rest

/-- The members after the first, and the closing brace. -/
def prettyMembers (level : Nat) : List (String × Value) → List Char
  | [] => newLine level ++ ['\x7d']
  | (name, value) :: rest =>
    ',' :: newLine (level + 1) ++ quote name ++ ':' :: ' ' :: value.pretty (level + 1) ++
      prettyMembers level rest

end

/-- An object on one line, without blanks. -/
def Fields.compact (fields : Fields) : String :=
  String.ofList (Value.object fields).compact

/-- An object with one member a line. -/
def Fields.pretty (fields : Fields) : String :=
  String.ofList ((Value.object fields).pretty 0)

end TouchDispatch.Json
