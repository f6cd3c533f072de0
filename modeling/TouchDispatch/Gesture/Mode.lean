/-
**The modes that the slider switches between.**

* `Mode.ofId?`: what a mode means for interruptions and for the ringer;
* `Mode.effect`: the vibration that confirms a move to a mode;
* `ZenMode.name`, `RingerMode.name`, `Effect.name`: how records name what was set.
-/

namespace TouchDispatch

/-- Which interruptions come through. -/
inductive ZenMode where
  | off
  | importantInterruptions
  | alarms
  | noInterruptions
deriving DecidableEq, Repr

/-- How an incoming call is announced. -/
inductive RingerMode where
  | silent
  | vibrate
  | normal
deriving DecidableEq, Repr

/-- The vibrations that the device has ready. -/
inductive Effect where
  | click
  | doubleClick
  | thud
  | pop
deriving DecidableEq, Repr

namespace ZenMode

/-- All of them. -/
def all : List ZenMode :=
  [off, importantInterruptions, alarms, noInterruptions]

/-- The name in records. -/
def name : ZenMode → String
  | off => "off"
  | importantInterruptions => "important_interruptions"
  | alarms => "alarms"
  | noInterruptions => "no_interruptions"

end ZenMode

namespace RingerMode

/-- All of them. -/
def all : List RingerMode :=
  [silent, vibrate, normal]

/-- The name in records. -/
def name : RingerMode → String
  | silent => "silent"
  | vibrate => "vibrate"
  | normal => "normal"

end RingerMode

namespace Effect

/-- All of them. -/
def all : List Effect :=
  [click, doubleClick, thud, pop]

/-- The name in records. -/
def name : Effect → String
  | click => "click"
  | doubleClick => "double_click"
  | thud => "thud"
  | pop => "pop"

end Effect

/-- What a slider mode sets. A mode that is about interruptions leaves the ringer alone. -/
structure Mode where
  zen : ZenMode
  ringer : Option RingerMode
deriving DecidableEq, Repr

namespace Mode

/-- The mode with an id. -/
def ofId? (id : Int) : Option Mode :=
  if id = 0 then some ⟨.off, some .normal⟩
  else if id = 1 then some ⟨.off, some .vibrate⟩
  else if id = 2 then some ⟨.off, some .silent⟩
  else if id = 3 then some ⟨.importantInterruptions, none⟩
  else if id = 4 then some ⟨.alarms, none⟩
  else if id = 5 then some ⟨.noInterruptions, none⟩
  else none

/-- The vibration that confirms a move to the mode with an id. -/
def effect (id : Int) : Effect :=
  if id = 0 then .doubleClick else if id = 1 then .thud else .pop

end Mode

end TouchDispatch
