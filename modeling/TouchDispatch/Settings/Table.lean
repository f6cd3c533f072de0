/-
**What the settings mean.**

The settings are a table of JSON values by name, and each is read in the way its user needs it:

* `flag`, `word`: a setting as a switch or as text, whatever kind of value was stored;
* `keysDisabled`, `proximityCheck`, `feedback`, `doze`, `sliderMap`, `binding`: the settings that
  the daemon knows.
-/

import TouchDispatch.Gesture.Binding
import TouchDispatch.Json.Printer
import TouchDispatch.Settings.Packed

namespace TouchDispatch.Settings

open TouchDispatch.Json TouchDispatch.Text

/-- The setting that turns the navigation keys off. -/
def keysDisabledName : String := "hardware_keys_disable"

/-- The setting that lets a covered proximity sensor block gestures. -/
def proximityCheckName : String := "device_proxi_check_enabled"

/-- The setting of the screen-off sensors. -/
def dozeName : String := "device_feature_settings"

/-- The setting of the slider. -/
def sliderName : String := "button_extra_key_mapping"

/-- The setting that lets gestures vibrate. -/
def feedbackName : String := "device_off_screen_gesture_feedback_enabled"

/-- How the name of every binding begins. -/
def bindingStem : String := "device_gesture_mapping_"

/-- The setting of the binding of a channel. -/
def bindingName (channel : Channel) : String :=
  bindingStem ++ channel.name

/-- The table of settings. -/
abbrev Table := Fields

/-- The greatest signed 64-bit number. -/
def greatestSigned : Int := 9223372036854775807

/-- The reading of a number as a switch: one is on and any other whole number is off. A number
that is not a signed 64-bit integer says nothing. -/
def flagOfNumber (unset : Bool) : Json.Number → Bool
  | .whole value => if value ≤ greatestSigned then value == 1 else unset
  | .double _ => unset

/-- The reading of a text as a switch: `1` and `true` are on, `0` and `false` off, in any case and
with blanks around them. Any other text says nothing. -/
def flagOfText (unset : Bool) (text : String) : Bool :=
  let word := (trim text.toList).map Char.toLower
  if word = "1".toList ∨ word = "true".toList then true
  else if word = "0".toList ∨ word = "false".toList then false
  else unset

/-- A setting as a switch; `unset` where it says nothing. -/
def flag (table : Table) (name : String) (unset : Bool) : Bool :=
  match table.get? name with
  | some (.bool value) => value
  | some (.number value) => flagOfNumber unset value
  | some (.text value) => flagOfText unset value
  | _ => unset

/-- A setting as text; `unset` where it says nothing. -/
def word (table : Table) (name : String) (unset : String) : String :=
  match table.get? name with
  | some (.text value) => value
  | some (.bool value) => String.ofList (boolText value)
  | some (.number value) => String.ofList value.text
  | _ => unset

/-- Whether the navigation keys are off. -/
def keysDisabled (table : Table) : Bool :=
  flag table keysDisabledName false

/-- Whether a covered proximity sensor blocks gestures. -/
def proximityCheck (table : Table) : Bool :=
  flag table proximityCheckName true

/-- Whether gestures vibrate. -/
def feedback (table : Table) : Bool :=
  flag table feedbackName false

/-- The switches of the screen-off sensors. -/
def doze (table : Table) : DozeFeatures :=
  DozeFeatures.read (word table dozeName "")

/-- The mapping of the slider. -/
def sliderMap (table : Table) : SliderMap :=
  SliderMap.read (word table sliderName "")

/-- The binding of a channel. -/
def binding (table : Table) (channel : Channel) : Binding :=
  (Binding.read? (word table (bindingName channel) "")).getD (Binding.default channel)

end TouchDispatch.Settings
