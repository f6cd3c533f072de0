/-
**The keys that the touch panel and the keypad report.**

* `Key`: the five drawn gestures, the double tap, the navigation keys and the slider positions;
* `Key.ofScanCode?`: the key that a scan code stands for;
* `Key.isProximityChecked`, `Key.channel?`: which keys a covered sensor blocks, and which have a
  binding;
* `Phase`, `KeyEvent`: what happened to a key.
-/

namespace TouchDispatch

/-- The drawn gestures. Each is a channel with a binding of its own. -/
inductive Channel where
  | circle
  | v
  | twoFingerSwipe
  | leftV
  | rightV
deriving DecidableEq, Repr

namespace Channel

/-- All channels, in the order in which they are listed. -/
def all : List Channel :=
  [circle, v, twoFingerSwipe, leftV, rightV]

/-- The name of a channel. -/
def name : Channel → String
  | circle => "circle"
  | v => "v"
  | twoFingerSwipe => "two_finger_swipe"
  | leftV => "left_v"
  | rightV => "right_v"

end Channel

/-- The positions of the slider. -/
inductive Position where
  | top
  | center
  | bottom
deriving DecidableEq, Repr

namespace Position

/-- All positions, from the top down. -/
def all : List Position :=
  [top, center, bottom]

/-- The place of a position in a slider mapping. -/
def index : Position → Nat
  | top => 0
  | center => 1
  | bottom => 2

/-- The name of a position. -/
def name : Position → String
  | top => "top"
  | center => "center"
  | bottom => "bottom"

end Position

/-- The capacitive keys below the screen. -/
inductive NavigationKey where
  | home
  | back
  | recents
deriving DecidableEq, Repr

/-- A key of the touch panel or the keypad. -/
inductive Key where
  | drawn (channel : Channel)
  | doubleTap
  | navigation (key : NavigationKey)
  | slider (position : Position)
deriving DecidableEq, Repr

/-- The code under which a driver reports a key. -/
abbrev ScanCode := UInt16

namespace Key

/-- The scan code of each key. -/
def scanCode : Key → ScanCode
  | drawn .circle => 250
  | drawn .twoFingerSwipe => 251
  | drawn .v => 252
  | drawn .leftV => 253
  | drawn .rightV => 254
  | doubleTap => 143
  | navigation .home => 102
  | navigation .back => 158
  | navigation .recents => 580
  | slider .top => 601
  | slider .center => 602
  | slider .bottom => 603

/-- All keys. -/
def all : List Key :=
  [drawn .circle, drawn .twoFingerSwipe, drawn .v, drawn .leftV, drawn .rightV, doubleTap,
    navigation .home, navigation .back, navigation .recents,
    slider .top, slider .center, slider .bottom]

/-- The key with a scan code. -/
def ofScanCode? (code : ScanCode) : Option Key :=
  all.find? fun key => key.scanCode = code

/-- A navigation key. -/
def isNavigation : Key → Bool
  | navigation _ => true
  | _ => false

/-- A key that is handled here; the navigation keys are only ever swallowed. -/
def isSupported (key : Key) : Bool :=
  !key.isNavigation

/-- A key that does nothing while the proximity sensor is covered. -/
def isProximityChecked : Key → Bool
  | drawn .circle | drawn .v | doubleTap => true
  | _ => false

/-- The slider position that a key reports. -/
def position? : Key → Option Position
  | slider position => some position
  | _ => none

/-- The channel of a drawn gesture. -/
def channel? : Key → Option Channel
  | drawn channel => some channel
  | _ => none

end Key

/-- What a key does. -/
inductive Phase where
  | press
  | release
  | autoRepeat
deriving DecidableEq, Repr

namespace Phase

/-- All of them. -/
def all : List Phase :=
  [press, release, autoRepeat]

/-- The name in records. -/
def name : Phase → String
  | press => "press"
  | release => "release"
  | autoRepeat => "repeat"

/-- The phase with the value that an input driver reports. -/
def ofValue? (value : Int) : Option Phase :=
  if value = 0 then some release
  else if value = 1 then some press
  else if value = 2 then some autoRepeat
  else none

end Phase

/-- A report of an input driver. -/
structure KeyEvent where
  code : ScanCode
  phase : Phase
deriving DecidableEq, Repr

namespace KeyEvent

/-- The report that a key is let go. -/
def release (code : ScanCode) : KeyEvent :=
  ⟨code, .release⟩

/-- Whether a key is let go. -/
def isRelease (event : KeyEvent) : Bool :=
  event.phase == .release

/-- The key that an event is about. -/
def key? (event : KeyEvent) : Option Key :=
  Key.ofScanCode? event.code

end KeyEvent

end TouchDispatch
