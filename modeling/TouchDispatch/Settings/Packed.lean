/-
**Settings that pack several values into one text.**

* `SliderMap.read`: the mode ids of the three slider positions, `top,center,bottom`: all three, or
  the default;
* `DozeFeatures.read`: the three switches of the screen-off sensors, `wave:pocket:tilt`;
* `SliderMap.setting`, `DozeFeatures.setting`: back to text.
-/

import TouchDispatch.Panel.Key
import TouchDispatch.Text.Blank
import TouchDispatch.Text.Decimal

namespace TouchDispatch

open TouchDispatch.Text

/-- The mode id of each slider position. -/
structure SliderMap where
  top : Int
  center : Int
  bottom : Int
deriving DecidableEq, Repr

namespace SliderMap

/-- The mapping when none is set: no interruptions, important ones, all of them. -/
def default : SliderMap :=
  ⟨5, 3, 0⟩

/-- A mode id: a signed 32-bit integer, blanks around it aside. -/
def readId? (field : List Char) : Option Int :=
  Decimal.int32? (trim field)

/-- Three mode ids with commas between them; anything else stands for the default. -/
def read (setting : String) : SliderMap :=
  match fields ',' setting.toList with
  | [top, center, bottom] =>
    match readId? top, readId? center, readId? bottom with
    | some top, some center, some bottom => ⟨top, center, bottom⟩
    | _, _, _ => default
  | _ => default

/-- The mode id of a position. -/
def modeAt (map : SliderMap) : Position → Int
  | .top => map.top
  | .center => map.center
  | .bottom => map.bottom

/-- The setting of a mapping. -/
def setting (map : SliderMap) : String :=
  String.ofList (Decimal.integer map.top ++ ',' :: Decimal.integer map.center ++
    ',' :: Decimal.integer map.bottom)

end SliderMap

/-- Which movements wake the screen while it is off. -/
structure DozeFeatures where
  /-- A hand waved over the proximity sensor. -/
  wave : Bool := false
  /-- The phone taken out of a pocket. -/
  pocket : Bool := false
  /-- The phone tilted. -/
  tilt : Bool := false
deriving DecidableEq, Repr

namespace DozeFeatures

/-- A switch is on when its field reads `true` in any case, blanks around it aside. -/
def readSwitch (field : List Char) : Bool :=
  sameLetters (trim field) "true".toList

/-- Three switches with colons between them; with any other number of fields all are off. -/
def read (setting : String) : DozeFeatures :=
  match fields ':' (trim setting.toList) with
  | [wave, pocket, tilt] => ⟨readSwitch wave, readSwitch pocket, readSwitch tilt⟩
  | _ => {}

/-- The setting of one switch. -/
def switchText (on : Bool) : String :=
  if on then "true" else "false"

/-- The setting of the switches. -/
def setting (features : DozeFeatures) : String :=
  switchText features.wave ++ ":" ++ switchText features.pocket ++ ":" ++
    switchText features.tilt

/-- Whether a movement is looked for that the proximity sensor shows. -/
def usesProximity (features : DozeFeatures) : Bool :=
  features.wave || features.pocket

end DozeFeatures

end TouchDispatch
