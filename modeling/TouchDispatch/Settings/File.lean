/-
**The settings file.**

* `readTable?`: the table that the content of a file holds;
* `save`: replaces the file in three steps that may each fail: its directory is made, the text is
  written beside it, and that file is moved over it;
* `load`: the table of a file, which is first replaced by an empty table if it holds none.
-/

import TouchDispatch.Disk.Basic
import TouchDispatch.Json.Reader
import TouchDispatch.Settings.Table

namespace TouchDispatch.Settings

open TouchDispatch.Json TouchDispatch.Text

/-- The table that a content holds, if it is well-formed UTF-8 and one JSON object. -/
def readTable? (content : List UInt8) : Option Table :=
  match Utf8.decode content with
  | .error _ => none
  | .ok _ =>
    match object content with
    | .ok table => some table
    | .error _ => none

/-- The content of the file of a table. -/
def content (table : Table) : List UInt8 :=
  Utf8.octets table.pretty

/-- The file beside the settings file that a new text is written to. -/
def draft (path : Path) : Path :=
  path.extended ".tmp"

/-- Replaces the settings file. The answer is the first error, and the tree as it is afterwards:
when only the last step fails, the draft stays. -/
def save (disk : Disk) (path : Path) (table : Table) : Option IoCause × Disk :=
  match disk.makeParent path with
  | (some cause, disk) => (some cause, disk)
  | (none, disk) =>
    match disk.write (draft path) (content table) with
    | .error cause => (some cause, disk)
    | .ok disk =>
      match disk.rename (draft path) path with
      | .error cause => (some cause, disk)
      | .ok disk => (none, disk)

/-- The table of the settings file. A file that is missing, unreadable or no table counts as empty
and is replaced by an empty table, as far as that works. -/
def load (disk : Disk) (path : Path) : Table × Disk :=
  match disk.read path with
  | .error _ => ([], (save disk path []).2)
  | .ok content =>
    match readTable? content with
    | some table => (table, disk)
    | none => ([], (save disk path []).2)

end TouchDispatch.Settings
