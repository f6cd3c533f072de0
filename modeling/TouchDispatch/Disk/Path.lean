/-
**Absolute paths.**

* `Path`: a path with all the slashes and dots that it is written with;
* `Path.text`, `Path.read`: its text, and the path that a text stands for;
* `Path.join`: the path of a name below a path, or of a name that is a path of its own;
* `Path.parent?`: the directory that a path lies in, as far as its text tells;
* `Path.names`: what two ways to write a path have in common;
* `Path.fault?`: why the operating system does not even look for a path.

Nothing here looks at a tree: that `d/..` leads back to where `d` is, and whether `d` is there at
all, is for the tree to say.
-/

import TouchDispatch.Disk.Errno
import TouchDispatch.Text.Blank

namespace TouchDispatch

open TouchDispatch.Text

/-- An absolute path: the parts of its text, each of which follows a slash. A part is a name, a dot
for the directory itself, two dots for the directory above, or empty. -/
structure Path where
  parts : List String := []
deriving DecidableEq, Repr

namespace Path

/-- Whether a part leads nowhere: a dot, or nothing between two slashes. -/
def isIdle (part : String) : Bool :=
  part == "" || part == "."

/-- Whether a part is one or two dots, which every directory has. -/
def isDots (part : String) : Bool :=
  part == "." || part == ".."

/-- Parts without those at the end that have a property. -/
def trimEnd (drop : String → Bool) (parts : List String) : List String :=
  (parts.reverse.dropWhile drop).reverse

theorem length_trimEnd_le (drop : String → Bool) (parts : List String) :
    (trimEnd drop parts).length ≤ parts.length := by
  simp only [trimEnd, List.length_reverse]
  exact Nat.le_trans (List.dropWhile_suffix drop).length_le (Nat.le_of_eq List.length_reverse)

/-! ### Texts -/

/-- The text of a path. -/
def text (path : Path) : String :=
  "/" ++ String.intercalate "/" path.parts

/-- The parts of a text: what there is before, between and after its slashes. -/
def partsOf (text : String) : List String :=
  (fields '/' text.toList).map String.ofList

/-- The path of a name below a path. A name that begins with a slash stands for itself. -/
def join (path : Path) (name : String) : Path :=
  match partsOf name with
  | "" :: first :: rest => ⟨first :: rest⟩
  | parts =>
    match path.parts.getLast? with
    | some "" => ⟨path.parts.dropLast ++ parts⟩
    | _ => ⟨path.parts ++ parts⟩

/-- The path that a text stands for, counted from the root. -/
def read (text : String) : Path :=
  join {} text

/-- The path with an extension added to its text. -/
def extended (path : Path) (extension : String) : Path :=
  match path.parts.getLast? with
  | some part => ⟨path.parts.dropLast ++ [part ++ extension]⟩
  | none => ⟨[extension]⟩

/-! ### Parts -/

/-- The parts that lead somewhere. Paths that agree in them are the same path written in two
ways. -/
def names (path : Path) : List String :=
  path.parts.filter fun part => !isIdle part

/-- The parts without the slashes at the end. -/
def bare (path : Path) : List String :=
  trimEnd (· == "") path.parts

/-- Whether there is a slash at the end. -/
def isSlashed (path : Path) : Bool :=
  path.parts.getLast? == some ""

/-- The last part, slashes at the end aside. The root has none; a dot stands for it. -/
def last (path : Path) : String :=
  path.bare.getLast?.getD "."

/-- The parts before the last one. -/
def front (path : Path) : List String :=
  path.bare.dropLast

/-- Whether the last part is one or two dots. -/
def isDotted (path : Path) : Bool :=
  isDots path.last

/-- The directory that a path lies in, by its text alone: the path without its last part, idle
parts aside. The root lies in none. -/
def parent? (path : Path) : Option Path :=
  match trimEnd isIdle path.parts with
  | [] => none
  | first :: rest => some ⟨trimEnd isIdle (first :: rest).dropLast⟩

theorem length_parts_lt_of_parent? {path above : Path} (lies : path.parent? = some above) :
    above.parts.length < path.parts.length := by
  have whole := length_trimEnd_le isIdle path.parts
  unfold parent? at lies
  split at lies
  · exact absurd lies (by simp)
  · next first rest trimmed =>
    rw [trimmed] at whole
    have shorter := length_trimEnd_le isIdle (first :: rest).dropLast
    obtain rfl := Option.some.inj lies
    simp only [List.length_dropLast, List.length_cons] at whole shorter ⊢
    omega

/-! ### Limits -/

/-- The number of octets that a name may have. -/
def maxName : Nat := 255

/-- The number of octets that a path may have. -/
def maxLength : Nat := 4095

/-- Whether a name has too many octets. -/
def isLong (name : String) : Bool :=
  decide (maxName < name.utf8ByteSize)

/-- The reason why a path with a NUL in it is refused. -/
def nulReason : String := "file name contained an unexpected NUL byte"

/-- Why the operating system does not even look for a path: there is a NUL in it, or it is too
long. -/
def fault? (path : Path) : Option IoCause :=
  let text := path.text
  if text.toList.contains '\x00' then some (.other nulReason)
  else if maxLength < text.utf8ByteSize then some (.os .nameTooLong)
  else none

end Path

end TouchDispatch
