/-
**The number that a node holds.**

* `Disk.Holds`: the content of a node is a text of a number, with blanks around it;
* `readInt?_eq_some_iff`: **that number is read, and nothing is read from any other node**;
* `readInt?_of_writeLine`: a number that is written to a node is read there.
-/

import TouchDispatch.Disk.Value
import TouchDispatch.Proofs.Disk.Change
import TouchDispatch.Proofs.Text.Grammar
import TouchDispatch.Proofs.Text.Octets

namespace TouchDispatch.Disk

open TouchDispatch.Text

/-- The node at a path can be read, and its content is a text of a number with blanks around it. -/
def Holds (disk : Disk) (path : Path) (value : Int) : Prop :=
  ∃ text : String, disk.read path = .ok (Utf8.octets text) ∧ Decimal.Reads text.toList value

variable {disk changed : Disk} {path : Path} {value : Int}

theorem readText?_eq_some_iff {text : String} :
    disk.readText? path = some text ↔ disk.read path = .ok (Utf8.octets text) := by
  unfold readText?
  cases disk.read path with
  | error cause => exact iff_of_false nofun nofun
  | ok content =>
    rw [Except.ok.injEq]
    exact Utf8.string?_eq_some_iff

/-- **The number that a node holds is read, and nothing is read from any other node.** -/
theorem readInt?_eq_some_iff : disk.readInt? path = some value ↔ disk.Holds path value := by
  unfold readInt? Holds
  rw [Option.bind_eq_some_iff]
  refine exists_congr fun text => and_congr readText?_eq_some_iff ?_
  exact Decimal.int32?_trim_iff

theorem readInt?_eq_none_iff :
    disk.readInt? path = none ↔ ∀ value, ¬ disk.Holds path value := by
  simp only [Option.eq_none_iff_forall_ne_some, ne_eq, readInt?_eq_some_iff]

/-- A number on a line of its own is read as that number. -/
theorem reads_line (fits : Decimal.FitsInt32 value) :
    Decimal.Reads (Decimal.integer value ++ ['\n']) value := by
  have blank : ∀ c ∈ ['\n'], isBlank c = true := List.forall_mem_singleton.mpr (by decide)
  have visible : ∀ c ∈ Decimal.integer value, isBlank c = false := fun c member =>
    (SliderMap.plain_of_digit (Decimal.integer_all value c member)).1
  rw [← Decimal.int32?_trim_iff, trim_after blank, trim_visible visible]
  exact Decimal.int32?_integer fits

theorem writeLine_eq_ok {text : String} (written : disk.writeLine path text = .ok changed) :
    disk.write path (Utf8.octets (text ++ "\n")) = .ok changed := by
  unfold writeLine at written
  split at written
  · next done =>
    obtain rfl := Except.ok.inj written
    exact done
  · cases written

/-- **A number that is written to a node is read there.** -/
theorem readInt?_of_writeLine (fits : Decimal.FitsInt32 value)
    (written : disk.writeLine path (String.ofList (Decimal.integer value)) = .ok changed) :
    changed.readInt? path = some value := by
  refine readInt?_eq_some_iff.mpr ⟨_, read_of_write (writeLine_eq_ok written), ?_⟩
  rw [String.toList_append, String.toList_ofList]
  exact reads_line fits

end TouchDispatch.Disk
