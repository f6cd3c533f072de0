/-
**The services of a phone, by command line and device node.**

* `Phone.setRinger`, `Phone.setZen`, `Phone.vibrate`, `Phone.launch`, …: one command line each;
* `Phone.musicActive`, `Phone.systemReady`: what commands answer;
* `playsMusic`: what the state of the media sessions says;
* `Phone.acquireLock`, `Phone.setKeypad`: one device node each.
-/

import TouchDispatch.Device.Request
import TouchDispatch.Shell.Phone
import TouchDispatch.Shell.Quote

namespace TouchDispatch

open TouchDispatch.Text

/-- The code of a media button on a virtual keyboard. -/
def MediaButton.keyCode : MediaButton → Nat
  | .playPause => 164
  | .previous => 165
  | .next => 163

/-- The name of a media button for the `input` command. -/
def MediaButton.keyName : MediaButton → String
  | .playPause => "KEYCODE_MEDIA_PLAY_PAUSE"
  | .previous => "KEYCODE_MEDIA_PREVIOUS"
  | .next => "KEYCODE_MEDIA_NEXT"

/-- The word for a ringer mode. -/
def RingerMode.word : RingerMode → String
  | .normal => "NORMAL"
  | .vibrate => "VIBRATE"
  | .silent => "SILENT"

/-- The word for an interruption mode. -/
def ZenMode.word : ZenMode → String
  | .off => "off"
  | .importantInterruptions => "priority"
  | .alarms => "alarms"
  | .noInterruptions => "none"

/-- The number of a prebaked vibration. -/
def Effect.number : Effect → String
  | .click => "0"
  | .doubleClick => "1"
  | .thud => "3"
  | .pop => "4"

/-- How the line of a playback state begins. -/
def playbackStem : List Char := "state=PlaybackState".toList

/-- What the line of a playing session contains. -/
def playingMarks : List (List Char) :=
  ["\x7bstate=3,".toList, "\x7bstate=3 ".toList]

/-- Whether a line shows a playing session. -/
def showsPlaying (line : List Char) : Bool :=
  let line := trim line
  playbackStem.isPrefixOf line && playingMarks.any fun mark => contains mark line

/-- Whether the state of the media sessions shows a playing one. -/
def playsMusic (dump : String) : Bool :=
  (fields '\n' dump.toList).any showsPlaying

namespace Phone

/-- Whether music is playing; not if that cannot be found out. -/
def musicActive (phone : Phone) : Bool × Phone :=
  match phone.run "dumpsys media_session" with
  | (.ok dump, phone) => (playsMusic dump, phone)
  | (.error _, phone) => (false, phone)

/-- Whether the system has come up; not if that cannot be found out. -/
def systemReady (phone : Phone) : Bool × Phone :=
  match phone.run "getprop sys.boot_completed" with
  | (.ok value, phone) => (trimmed value == "1", phone)
  | (.error _, phone) => (false, phone)

/-- Sets the ringer. -/
def setRinger (phone : Phone) (mode : RingerMode) : Except Failure Unit × Phone :=
  phone.command (serviceLine ("audio set-ringer-mode " ++ mode.word))

/-- Sets which interruptions come through. -/
def setZen (phone : Phone) (mode : ZenMode) : Except Failure Unit × Phone :=
  phone.command (serviceLine ("notification set_dnd " ++ mode.word))

/-- Sends an event of a media button. The command presses and lets go in one, so it runs when the
button goes up. -/
def sendMedia (phone : Phone) (button : MediaButton) : Stroke → Except Failure Unit × Phone
  | .down => (.ok (), phone)
  | .up => phone.command ("input keyevent " ++ button.keyName)

/-- Wakes the screen for a moment. -/
def pulse (phone : Phone) : Except Failure Unit × Phone :=
  phone.command "am broadcast -a com.android.systemui.doze.pulse --user current"

/-- Vibrates. -/
def vibrate (phone : Phone) (effect : Effect) : Except Failure Unit × Phone :=
  phone.command (serviceLine ("vibrator_manager synced prebaked " ++ effect.number))

/-- The command line that starts an app. -/
def launchLine (component : String) : String :=
  "am start --user current -n " ++ String.ofList (Shell.quote component.toList)

/-- Starts an app. -/
def launch (phone : Phone) (component : String) : Except Failure Unit × Phone :=
  phone.command (launchLine component)

/-- Starts the camera. -/
def launchCamera (phone : Phone) : Except Failure Unit × Phone :=
  phone.command "am start --user current -a android.media.action.STILL_IMAGE_CAMERA"

/-- Wakes the device. -/
def wakeUp (phone : Phone) : Except Failure Unit × Phone :=
  phone.command "input keyevent KEYCODE_WAKEUP"

/-- Keeps the device awake for a while: the node takes a tag and a time in nanoseconds. -/
def acquireLock (phone : Phone) (node : Path) (tag : String) (millis : Nat) :
    Except Failure Unit × Phone :=
  phone.writeNode "wake_lock" node
    (tag ++ " " ++ String.ofList (Decimal.digits (millis * 1000000)))

/-- Turns the keypad on or off. -/
def setKeypad (phone : Phone) (node : Path) (enabled : Bool) : Except Failure Unit × Phone :=
  phone.writeNode "keypad" node (if enabled then "1" else "0")

end Phone

end TouchDispatch
