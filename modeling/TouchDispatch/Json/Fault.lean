/-
**Why and where a JSON text is refused.**

* `Cause`: what is wrong;
* `Stop`: the cause together with the number of octets that were still unread;
* `Fault`: the cause with the line and the column, and `Fault.message`, its text.
-/

import TouchDispatch.Json.Value

namespace TouchDispatch.Json

/-- The kinds of value that a document may hold in the place of an object. -/
inductive Found where
  | null
  | bool (value : Bool)
  | number (value : Number)
  | text (value : String)
  | sequence
deriving Repr

/-- What is wrong with a JSON text. -/
inductive Cause where
  | endInValue
  | endInObject
  | endInList
  | endInString
  | expectedValue
  | expectedIdent
  | invalidNumber
  | numberOutOfRange
  | keyNotString
  | trailingComma
  | expectedColon
  | expectedCommaOrBrace
  | expectedCommaOrBracket
  | trailingCharacters
  | invalidEscape
  | endOfSurrogate
  | loneSurrogate
  | controlCharacter
  | invalidCodePoint
  | tooDeep
  | notAnObject (found : Found)
deriving Repr

/-- A refusal while reading: its cause and how many octets lay after the place of the fault. -/
structure Stop where
  cause : Cause
  left : Nat
deriving Repr

/-- A refusal with its place. Lines count from one; a column is the number of octets of its line
up to the place. -/
structure Fault where
  cause : Cause
  line : Nat
  column : Nat
deriving Repr

/-- The octet of a line break. -/
def lineBreak : UInt8 := 10

/-- Finds the line and the column of a refusal in the whole input. -/
def Fault.locate (input : List UInt8) (stop : Stop) : Fault :=
  let seen := input.take (input.length - stop.left)
  { cause := stop.cause
    line := 1 + seen.count lineBreak
    column := (seen.reverse.takeWhile (· != lineBreak)).length }

end TouchDispatch.Json
