/-
**White space, trimming and fields.**

* `isBlank`: the characters with the Unicode property White_Space;
* `trim`: a text without the blanks at its two ends;
* `fields`: the parts of a text between the occurrences of a separator.
-/

namespace TouchDispatch.Text

/-- The characters with the Unicode property White_Space: the five ASCII controls from tab to
carriage return, space, and the blanks outside ASCII. -/
def isBlank (c : Char) : Bool :=
  let code := c.toNat
  (9 ≤ code && code ≤ 13) || code == 0x20 || code == 0x85 || code == 0xA0 || code == 0x1680 ||
    (0x2000 ≤ code && code ≤ 0x200A) || code == 0x2028 || code == 0x2029 || code == 0x202F ||
    code == 0x205F || code == 0x3000

/-- The text without its leading blanks. -/
def trimStart (text : List Char) : List Char :=
  text.dropWhile isBlank

/-- The text without its trailing blanks. -/
def trimEnd (text : List Char) : List Char :=
  (text.reverse.dropWhile isBlank).reverse

/-- The text without the blanks at its two ends. -/
def trim (text : List Char) : List Char :=
  trimEnd (trimStart text)

/-- The string without the blanks at its two ends. -/
def trimmed (text : String) : String :=
  String.ofList (trim text.toList)

/-- The parts between the occurrences of `separator`: always one more than there are of those. -/
def fields (separator : Char) : List Char → List (List Char)
  | [] => [[]]
  | c :: rest =>
    if c = separator then
      [] :: fields separator rest
    else
      match fields separator rest with
      | [] => [[c]]
      | first :: others => (c :: first) :: others

/-- Whether two texts agree once the ASCII letters are put in lower case. -/
def sameLetters (first second : List Char) : Bool :=
  first.map Char.toLower == second.map Char.toLower

/-- Whether `part` occurs somewhere in `text`. -/
def contains (part : List Char) : List Char → Bool
  | [] => part.isEmpty
  | c :: rest => part.isPrefixOf (c :: rest) || contains part rest

end TouchDispatch.Text
