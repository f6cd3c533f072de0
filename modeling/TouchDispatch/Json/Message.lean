/-
**The messages for refused JSON texts.**

* `Cause.text`: what is wrong, in words;
* `Fault.message`: the same with the line and the column.
-/

import TouchDispatch.Json.Fault
import TouchDispatch.Json.Printer
import TouchDispatch.Text.Quoted

namespace TouchDispatch.Json

open TouchDispatch.Text

/-- A value in the place of an object, in words. -/
def Found.describe : Found → String
  | .null => "null"
  | .bool value => "boolean `" ++ String.ofList (boolText value) ++ "`"
  | .number (.whole value) => "integer `" ++ String.ofList (Decimal.integer value) ++ "`"
  | .number (.double value) => "floating point `" ++ String.ofList (layout.text value) ++ "`"
  | .text value => "string " ++ String.ofList (Quoted.text value.toList)
  | .sequence => "sequence"

/-- What is wrong, in words. -/
def Cause.text : Cause → String
  | .endInValue => "EOF while parsing a value"
  | .endInObject => "EOF while parsing an object"
  | .endInList => "EOF while parsing a list"
  | .endInString => "EOF while parsing a string"
  | .expectedValue => "expected value"
  | .expectedIdent => "expected ident"
  | .invalidNumber => "invalid number"
  | .numberOutOfRange => "number out of range"
  | .keyNotString => "key must be a string"
  | .trailingComma => "trailing comma"
  | .expectedColon => "expected `:`"
  | .expectedCommaOrBrace => "expected `,` or `\x7d`"
  | .expectedCommaOrBracket => "expected `,` or `]`"
  | .trailingCharacters => "trailing characters"
  | .invalidEscape => "invalid escape"
  | .endOfSurrogate => "unexpected end of hex escape"
  | .loneSurrogate => "lone leading surrogate in hex escape"
  | .controlCharacter => "control character (\\u0000-\\u001F) found while parsing a string"
  | .invalidCodePoint => "invalid unicode code point"
  | .tooDeep => "recursion limit exceeded"
  | .notAnObject found => "invalid type: " ++ found.describe ++ ", expected a map"

/-- What is wrong and where. -/
def Fault.message (fault : Fault) : String :=
  fault.cause.text ++ " at line " ++ String.ofList (Decimal.digits fault.line) ++ " column " ++
    String.ofList (Decimal.digits fault.column)

end TouchDispatch.Json
