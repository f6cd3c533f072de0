/-
**Device nodes that hold one value.**

* `Disk.readText?`, `Disk.readInt?`: the value of a node as text and as a number;
* `Disk.writeLine`: writes a value and a line break;
* `NodeCache.write`: the same, unless the value is known to be there already.
-/

import TouchDispatch.Failure
import TouchDispatch.Disk.Basic
import TouchDispatch.Text.Blank
import TouchDispatch.Text.Utf8

namespace TouchDispatch

open TouchDispatch.Text

/-- The number that a text holds, blanks around it aside. -/
def readNumber? (text : String) : Option Int :=
  Decimal.int32? (trim text.toList)

/-- The number that the content of a node holds. -/
def numberOfContent? (content : List UInt8) : Option Int :=
  (Utf8.string? content).bind readNumber?

namespace Disk

/-- The text of a file; none if it cannot be read or is no UTF-8. -/
def readText? (disk : Disk) (path : Path) : Option String :=
  match disk.read path with
  | .ok content => Utf8.string? content
  | .error _ => none

/-- The number in a file. -/
def readInt? (disk : Disk) (path : Path) : Option Int :=
  (disk.readText? path).bind readNumber?

/-- Writes a value and a line break. -/
def writeLine (disk : Disk) (path : Path) (value : String) : Except Failure Disk :=
  match disk.write path (Utf8.octets (value ++ "\n")) with
  | .ok disk => .ok disk
  | .error cause => .error (.node path.text cause)

end Disk

/-- The values that were written to nodes last. A node is known by the names in its path, so two
ways to write one path are the same node; a path that takes another way to it is not. -/
abbrev NodeCache := List (List String × String)

/-- What writing through the cache comes to. -/
structure CachedWrite where
  /-- Whether the node was written, or why that failed. -/
  result : Except Failure Bool
  cache : NodeCache
  disk : Disk

namespace NodeCache

/-- The cache after a value was written. -/
def remember (cache : NodeCache) (path : Path) (value : String) : NodeCache :=
  (path.names, value) :: cache.filter fun entry => entry.1 ≠ path.names

/-- Writes a value to a node, unless the node is missing or the value is known to be there. -/
def write (cache : NodeCache) (disk : Disk) (path : Path) (value : String) : CachedWrite :=
  if !disk.has path then ⟨.ok false, cache, disk⟩
  else if cache.lookup path.names = some value then ⟨.ok false, cache, disk⟩
  else
    match disk.writeLine path value with
    | .ok disk => ⟨.ok true, cache.remember path value, disk⟩
    | .error failure => ⟨.error failure, cache, disk⟩

end NodeCache

end TouchDispatch
