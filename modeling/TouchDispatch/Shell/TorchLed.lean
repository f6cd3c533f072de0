/-
**The light diode of the torch.**

* `TorchLed.choose`: the diode to use among the entries of a directory, whatever their order;
* `TorchLed.set`, `TorchLed.brightness`: switch a diode, and read it back;
* `TorchLed.report`: what a look at the diode has to tell since the last one;
* `TorchLed.firstReport?`: what a series of looks has to tell first.
-/

import TouchDispatch.Daemon.Sense
import TouchDispatch.Disk.Value

namespace TouchDispatch.TorchLed

open TouchDispatch.Text

/-- The words of which the name of a torch has one in it. -/
def marks : List (List Char) :=
  ["torch".toList, "flashlight".toList]

/-- Whether a name is that of a torch. -/
def isTorchName (name : String) : Bool :=
  marks.any fun mark => contains mark name.toList

/-- The least of some names. -/
def least? : List String → Option String
  | [] => none
  | name :: rest =>
    match least? rest with
    | none => some name
    | some other => some (if other < name then other else name)

/-- The diode to use: of the torches whose brightness can be set, the one with the least name.
Entries whose name is no UTF-8 are passed over. -/
def choose (entries : List (List UInt8)) (hasBrightness : String → Bool) : Option String :=
  least? ((entries.filterMap Utf8.string?).filter fun name =>
    isTorchName name && hasBrightness name)

/-- The node of the brightness of a diode. -/
def brightnessNode (directory : Path) (id : String) : Path :=
  (directory.join id).join "brightness"

/-- The node of the greatest brightness of a diode. -/
def limitNode (directory : Path) (id : String) : Path :=
  (directory.join id).join "max_brightness"

/-- The diode to use of those in a directory. -/
def find (disk : Disk) (directory : Path) : Except Failure (Option String) :=
  match disk.list directory with
  | .error cause => .error (.io cause)
  | .ok names =>
    .ok (choose (names.map Utf8.octets) fun name => disk.has (brightnessNode directory name))

/-- The brightness of a diode. -/
def brightness (disk : Disk) (directory : Path) (id : String) : Option Int :=
  disk.readInt? (brightnessNode directory id)

/-- The brightness that a diode is set to: its greatest one, at least one, or zero. -/
def level (disk : Disk) (directory : Path) (id : String) (enabled : Bool) : Int :=
  if enabled then max 1 ((disk.readInt? (limitNode directory id)).getD 1) else 0

/-- Switches a diode. -/
def set (disk : Disk) (directory : Path) (id : String) (enabled : Bool) : Except Failure Disk :=
  disk.writeLine (brightnessNode directory id)
    (String.ofList (Decimal.integer (level disk directory id enabled)))

/-- Whether a brightness is that of a torch that is on; none for a diode that is gone. -/
def isLit (brightness : Option Int) : Option Bool :=
  brightness.map fun value => decide (0 < value)

/-- What has to be told when a diode went from one state to another. -/
def report (id : String) (last now : Option Bool) : Option Event :=
  if now = last then none
  else match now with
    | some on => some (.torchMode id on)
    | none => some (.torchGone id)

/-- What a series of looks at a diode has to tell first, after it was in a given state. -/
def firstReport? (id : String) (last : Option Bool) : List (Option Bool) → Option Event
  | [] => none
  | now :: rest =>
    match report id last now with
    | some event => some event
    | none => firstReport? id now rest

end TouchDispatch.TorchLed
