/-
**What a gesture does, and what a channel is bound to.**

* `Action`: the side effects that a channel may be bound to;
* `Binding.read?`, `Binding.setting`: a binding from its setting and back;
* `Gesture`: an action, or a move of the slider;
* `Gesture.label`: the name under which a gesture is recorded.
-/

import TouchDispatch.Panel.Key
import TouchDispatch.Text.Blank

namespace TouchDispatch

open TouchDispatch.Text

/-- The buttons that control playing music. -/
inductive MediaButton where
  | playPause
  | previous
  | next
deriving DecidableEq, Repr

/-- A side effect that a channel may be bound to. -/
inductive Action where
  | torch
  | camera
  | media (button : MediaButton)
  | wake
  /-- Starts the app with this component reference, which is handed on as it is. -/
  | launch (component : String)
deriving DecidableEq, Repr

/-- What a channel is bound to. -/
inductive Binding where
  | disabled
  | run (action : Action)
deriving DecidableEq, Repr

/-- A side effect to perform. -/
inductive Gesture where
  | run (action : Action)
  | slide (position : Position)
deriving DecidableEq, Repr

namespace MediaButton

/-- All of them. -/
def all : List MediaButton :=
  [playPause, previous, next]

/-- The name in records. -/
def name : MediaButton → String
  | playPause => "play_pause"
  | previous => "previous"
  | next => "next"

/-- The word for a button in a setting. -/
def word : MediaButton → String
  | playPause => "music_play"
  | previous => "music_prev"
  | next => "music_next"

end MediaButton

namespace Binding

/-- The binding that a setting names; `none` for a blank setting, which leaves the channel at its
default. Any other text that is no known word is the component of an app. -/
def read? (setting : String) : Option Binding :=
  match trimmed setting with
  | "" => none
  | "disabled" => some disabled
  | "torch" => some (run .torch)
  | "camera" => some (run .camera)
  | "music_play" => some (run (.media .playPause))
  | "music_prev" => some (run (.media .previous))
  | "music_next" => some (run (.media .next))
  | "wake" => some (run .wake)
  | component => some (run (.launch component))

/-- The setting of a binding. -/
def setting : Binding → String
  | disabled => "disabled"
  | run .torch => "torch"
  | run .camera => "camera"
  | run (.media button) => button.word
  | run .wake => "wake"
  | run (.launch component) => component

/-- What a channel does when nothing is set for it. -/
def default : Channel → Binding
  | .circle => run .camera
  | .v => run .torch
  | .twoFingerSwipe => run (.media .playPause)
  | .leftV => run (.media .previous)
  | .rightV => run (.media .next)

/-- Whether the channel does anything. -/
def isEnabled : Binding → Bool
  | disabled => false
  | run _ => true

end Binding

namespace Gesture

/-- The gesture of a binding; none for a disabled one. -/
def ofBinding? : Binding → Option Gesture
  | .disabled => none
  | .run action => some (run action)

/-- The name under which a gesture is recorded. -/
def label : Gesture → String
  | run .torch => "torch"
  | run .camera => "camera"
  | run (.media button) => button.word
  | run .wake => "wake"
  | run (.launch component) => "launch:" ++ component
  | slide position => "slider:" ++ position.name

end Gesture

end TouchDispatch
