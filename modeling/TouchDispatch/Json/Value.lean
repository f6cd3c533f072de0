/-
**JSON values with sorted objects.**

* `Number`: a whole number of at most 64 bits, or a 64-bit floating-point number;
* `Value`: the six kinds of value;
* `Fields`: the members of an object, sorted by name, each name once;
* `Fields.get?`, `Fields.insert`, `Fields.names`: lookup, replacement and the names in order;
* `Value.same`: equality in which the two floating-point zeros agree, and a whole number never
  equals a floating-point number.
-/

import TouchDispatch.Number.Binary64

namespace TouchDispatch.Json

open TouchDispatch.Number

/-- A JSON number. A numeral that is a whole number of 64 bits, unsigned or with a minus sign in
front, stays whole; every other one is a floating-point number. -/
inductive Number where
  | whole (value : Int)
  | double (value : Binary64)
deriving DecidableEq, Repr

/-- A JSON value. The members of an object are sorted by name. -/
inductive Value where
  | null
  | bool (value : Bool)
  | number (value : Number)
  | text (value : String)
  | array (items : List Value)
  | object (members : List (String × Value))
deriving Repr

/-- The members of an object: sorted by name, each name once. -/
abbrev Fields := List (String × Value)

/-- Numbers are equal only within their kind. -/
def Number.same : Number → Number → Bool
  | .whole first, .whole second => first == second
  | .double first, .double second => first.same second
  | _, _ => false

mutual

/-- Equality of values, in which the two floating-point zeros agree. -/
def Value.same : Value → Value → Bool
  | .null, .null => true
  | .bool first, .bool second => first == second
  | .number first, .number second => first.same second
  | .text first, .text second => first == second
  | .array first, .array second => sameItems first second
  | .object first, .object second => sameMembers first second
  | _, _ => false

/-- Equality of the items of two arrays, one by one. -/
def sameItems : List Value → List Value → Bool
  | [], [] => true
  | first :: firsts, second :: seconds => first.same second && sameItems firsts seconds
  | _, _ => false

/-- Equality of the members of two objects, one by one. -/
def sameMembers : List (String × Value) → List (String × Value) → Bool
  | [], [] => true
  | (name, first) :: firsts, (other, second) :: seconds =>
    name == other && first.same second && sameMembers firsts seconds
  | _, _ => false

end

/-- A boolean, a number or a text. -/
def Value.isScalar : Value → Bool
  | .bool _ | .number _ | .text _ => true
  | _ => false

namespace Fields

/-- The value of a name. -/
def get? : Fields → String → Option Value
  | [], _ => none
  | (other, value) :: rest, name => if other = name then some value else get? rest name

/-- The members with the value of one name set, in its place in the order. -/
def insert : Fields → String → Value → Fields
  | [], name, value => [(name, value)]
  | (other, old) :: rest, name, value =>
    if other = name then (name, value) :: rest
    else if name < other then (name, value) :: (other, old) :: rest
    else (other, old) :: insert rest name value

/-- The names, in order. -/
def names (fields : Fields) : List String :=
  fields.map Prod.fst

/-- The members of a list of pairs; the last pair of a name counts. -/
def ofList (pairs : List (String × Value)) : Fields :=
  pairs.foldl (fun fields pair => insert fields pair.1 pair.2) []

end Fields

end TouchDispatch.Json
