/-
**The courses of a dialogue.**

What the device answers is not known beforehand, so a dialogue may go many ways. A course is one of
them: the exchanges up to the end, and the result.

* `Dialogue.Ends`: a dialogue may end in a result after some exchanges;
* `ends_pure_iff`, `ends_bind_iff`, `ends_perform_iff` and so on: the courses of a dialogue from
  those of its parts;
* `ends_run`: with a host, a dialogue takes the course that its transcript shows;
* `Dialogue.Ensures`: what holds of all requests and of the result on every course;
* `asked`: what is requested of one kind, in order;
* `Request.part`: the part of the device that a request is to.
-/

import TouchDispatch.Device.Dialogue

namespace TouchDispatch

namespace Dialogue

variable {α β σ : Type}

theorem bind_pure_eq (dialogue : Dialogue α) : dialogue.bind pure = dialogue := by
  induction dialogue with
  | pure result => rfl
  | ask request next ih => exact congrArg (ask request) (funext ih)

theorem bind_bind {γ : Type} (dialogue : Dialogue α) (first : α → Dialogue β)
    (second : β → Dialogue γ) :
    (dialogue.bind first).bind second = dialogue.bind fun value => (first value).bind second := by
  induction dialogue with
  | pure result => rfl
  | ask request next ih => exact congrArg (ask request) (funext ih)

instance : LawfulMonad Dialogue :=
  .mk' Dialogue bind_pure_eq (fun _ _ => rfl) bind_bind

/-- A dialogue may end in a result after some exchanges. -/
inductive Ends : Dialogue α → List Exchange → α → Prop
  | pure (result : α) : Ends (.pure result) [] result
  | ask (request : Request) (next : request.Answer → Dialogue α) (answer : request.Answer)
      {exchanges : List Exchange} {result : α} (rest : Ends (next answer) exchanges result) :
      Ends (.ask request next) (⟨request, answer⟩ :: exchanges) result

theorem ends_pure_iff {exchanges : List Exchange} {result value : α} :
    (Pure.pure value : Dialogue α).Ends exchanges result ↔ exchanges = [] ∧ result = value := by
  constructor
  · intro ends
    cases ends with
    | pure => exact ⟨rfl, rfl⟩
  · rintro ⟨rfl, rfl⟩
    exact .pure _

/-- **A course of two dialogues, one after another, is a course of each.** -/
theorem ends_bind_iff {first : Dialogue α} {next : α → Dialogue β} {exchanges : List Exchange}
    {result : β} :
    (first >>= next).Ends exchanges result ↔
      ∃ before value after, first.Ends before value ∧ (next value).Ends after result ∧
        exchanges = before ++ after := by
  show (first.bind next).Ends exchanges result ↔ _
  constructor
  · intro ends
    induction first generalizing exchanges with
    | pure value => exact ⟨[], value, exchanges, .pure value, ends, rfl⟩
    | ask request reply ih =>
      cases ends with
      | ask _ _ answer rest =>
        obtain ⟨before, value, after, left, right, rfl⟩ := ih answer rest
        exact ⟨_, value, after, .ask request reply answer left, right, rfl⟩
  · rintro ⟨before, value, after, left, right, rfl⟩
    induction left with
    | pure value => exact right
    | ask request reply answer _ ih => exact .ask request _ answer (ih right)

/-- What a last step makes of the result asks nothing. -/
theorem ends_map_iff {first : Dialogue α} {make : α → β} {exchanges : List Exchange} {result : β} :
    (first >>= fun value => Pure.pure (make value)).Ends exchanges result ↔
      ∃ value, first.Ends exchanges value ∧ result = make value := by
  rw [ends_bind_iff]
  constructor
  · rintro ⟨before, value, after, left, right, rfl⟩
    obtain ⟨rfl, rfl⟩ := ends_pure_iff.mp right
    rw [List.append_nil]
    exact ⟨value, left, rfl⟩
  · rintro ⟨value, ends, rfl⟩
    exact ⟨exchanges, value, [], ends, ends_pure_iff.mpr ⟨rfl, rfl⟩, (List.append_nil _).symm⟩

theorem ends_ask_iff {request : Request} {exchanges : List Exchange} {answer : request.Answer} :
    (ask request Dialogue.pure).Ends exchanges answer ↔ exchanges = [⟨request, answer⟩] := by
  constructor
  · intro ends
    cases ends with
    | ask _ _ answer rest =>
      cases rest with
      | pure => rfl
  · rintro rfl
    exact .ask request _ answer (.pure answer)

theorem ends_now_iff {exchanges : List Exchange} {time : Int} :
    now.Ends exchanges time ↔ exchanges = [⟨.now, time⟩] :=
  ends_ask_iff

theorem ends_systemReady_iff {exchanges : List Exchange} {ready : Bool} :
    systemReady.Ends exchanges ready ↔ exchanges = [⟨.systemReady, ready⟩] :=
  ends_ask_iff

theorem ends_findCamera_iff {exchanges : List Exchange} {search : CameraSearch} :
    findCamera.Ends exchanges search ↔ exchanges = [⟨.findCamera, search⟩] :=
  ends_ask_iff

theorem ends_perform_iff {call : Call} {exchanges : List Exchange} {done : Bool} :
    (perform call).Ends exchanges done ↔ exchanges = [⟨.perform call, done⟩] :=
  ends_ask_iff

/-- **With a host, a dialogue takes the course that its transcript shows.** -/
theorem ends_run (host : Host σ) (dialogue : Dialogue α) (state : σ) :
    dialogue.Ends (dialogue.transcript host state) (dialogue.run host state).1 := by
  induction dialogue generalizing state with
  | pure result => exact .pure result
  | ask request next ih => exact .ask request next _ (ih _ _)

/-! ### What holds of every course -/

/-- On every course all requests are allowed, and the result has a property. -/
def Ensures (allowed : Request → Prop) (property : α → Prop) (dialogue : Dialogue α) : Prop :=
  ∀ exchanges result, dialogue.Ends exchanges result →
    (∀ exchange ∈ exchanges, allowed exchange.request) ∧ property result

theorem Ensures.pure {allowed : Request → Prop} {property : α → Prop} {value : α}
    (holds : property value) : (Pure.pure value : Dialogue α).Ensures allowed property := by
  intro exchanges result ends
  obtain ⟨rfl, rfl⟩ := ends_pure_iff.mp ends
  exact ⟨fun exchange member => absurd member List.not_mem_nil, holds⟩

theorem Ensures.ask {allowed : Request → Prop} {request : Request} (here : allowed request) :
    (Dialogue.ask request Dialogue.pure).Ensures allowed fun _ => True := by
  intro exchanges result ends
  rw [ends_ask_iff.mp ends]
  refine ⟨fun exchange member => ?_, trivial⟩
  obtain rfl := List.mem_singleton.mp member
  exact here

theorem Ensures.now {allowed : Request → Prop} (here : allowed .now) :
    Dialogue.now.Ensures allowed fun _ => True :=
  .ask here

theorem Ensures.musicActive {allowed : Request → Prop} (here : allowed .musicActive) :
    Dialogue.musicActive.Ensures allowed fun _ => True :=
  .ask here

theorem Ensures.systemReady {allowed : Request → Prop} (here : allowed .systemReady) :
    Dialogue.systemReady.Ensures allowed fun _ => True :=
  .ask here

theorem Ensures.findCamera {allowed : Request → Prop} (here : allowed .findCamera) :
    Dialogue.findCamera.Ensures allowed fun _ => True :=
  .ask here

theorem Ensures.perform {allowed : Request → Prop} {call : Call} (here : allowed (.perform call)) :
    (Dialogue.perform call).Ensures allowed fun _ => True :=
  .ask here

/-- **What two dialogues ensure, one after another.** -/
theorem Ensures.bind {allowed : Request → Prop} {between : α → Prop} {property : β → Prop}
    {first : Dialogue α} {next : α → Dialogue β} (left : first.Ensures allowed between)
    (right : ∀ value, between value → (next value).Ensures allowed property) :
    (first >>= next).Ensures allowed property := by
  intro exchanges result ends
  obtain ⟨before, value, after, leftEnds, rightEnds, rfl⟩ := ends_bind_iff.mp ends
  obtain ⟨leftAllowed, holds⟩ := left before value leftEnds
  obtain ⟨rightAllowed, final⟩ := right value holds after result rightEnds
  refine ⟨fun exchange member => ?_, final⟩
  rcases List.mem_append.mp member with member | member
  · exact leftAllowed exchange member
  · exact rightAllowed exchange member

/-- The same where nothing is to be known of what the first of them comes to. -/
theorem Ensures.seq {allowed : Request → Prop} {property : β → Prop} {first : Dialogue α}
    {next : α → Dialogue β} (left : first.Ensures allowed fun _ => True)
    (right : ∀ value, (next value).Ensures allowed property) :
    (first >>= next).Ensures allowed property :=
  left.bind fun value _ => right value

theorem Ensures.imp {allowed : Request → Prop} {strong weak : α → Prop} {dialogue : Dialogue α}
    (ensures : dialogue.Ensures allowed strong) (weaker : ∀ value, strong value → weak value) :
    dialogue.Ensures allowed weak := fun exchanges result ends =>
  (ensures exchanges result ends).imp_right (weaker result)

theorem Ensures.ite {allowed : Request → Prop} {property : α → Prop} {condition : Prop}
    [Decidable condition] {yes no : Dialogue α} (left : yes.Ensures allowed property)
    (right : no.Ensures allowed property) :
    (if condition then yes else no).Ensures allowed property := by
  split
  · exact left
  · exact right

end Dialogue

/-! ### Requests of one kind -/

/-- What is requested of one kind in the course of some exchanges, in order. -/
def asked {β : Type} (kind : Request → Option β) (exchanges : List Exchange) : List β :=
  exchanges.filterMap fun exchange => kind exchange.request

section Asked

variable {β : Type} {kind : Request → Option β}

@[simp]
theorem asked_append (before after : List Exchange) :
    asked kind (before ++ after) = asked kind before ++ asked kind after :=
  List.filterMap_append

theorem asked_eq_nil {exchanges : List Exchange}
    (none : ∀ exchange ∈ exchanges, kind exchange.request = none) : asked kind exchanges = [] :=
  List.filterMap_eq_nil_iff.mpr none

end Asked

/-- The part of the device that a request is to. -/
inductive Part where
  /-- The keypad below the screen. -/
  | keypad
  /-- The sensors that are listened to. -/
  | sensors
  /-- The camera whose flash is the torch. -/
  | torch
  /-- Any other part, and the clock. -/
  | other
deriving DecidableEq, Repr

namespace Request

/-- The part of the device that a request is to. -/
def part : Request → Part
  | .perform (.keypad _) => .keypad
  | .perform (.listenProximity _) | .perform (.listenTilt _) => .sensors
  | .findCamera | .perform (.torch ..) => .torch
  | _ => .other

/-- A request to the keypad: whether it is to work. -/
def keypad? : Request → Option Bool
  | .perform (.keypad enabled) => some enabled
  | _ => none

/-- A request to the proximity sensor: whether it is to report. -/
def proximity? : Request → Option Bool
  | .perform (.listenProximity on) => some on
  | _ => none

/-- A request to the tilt sensor: how late it may report, if it is to. -/
def tilt? : Request → Option (Option Nat)
  | .perform (.listenTilt latency) => some latency
  | _ => none

/-- A request to the torch: the camera, and whether its torch is to be on. -/
def torch? : Request → Option (String × Bool)
  | .perform (.torch camera enabled) => some (camera, enabled)
  | _ => none

theorem keypad?_eq_none {request : Request} (other : request.part ≠ .keypad) :
    request.keypad? = none := by
  unfold keypad?
  split
  · exact absurd rfl other
  · rfl

theorem proximity?_eq_none {request : Request} (other : request.part ≠ .sensors) :
    request.proximity? = none := by
  unfold proximity?
  split
  · exact absurd rfl other
  · rfl

theorem tilt?_eq_none {request : Request} (other : request.part ≠ .sensors) :
    request.tilt? = none := by
  unfold tilt?
  split
  · exact absurd rfl other
  · rfl

theorem torch?_eq_none {request : Request} (other : request.part ≠ .torch) :
    request.torch? = none := by
  unfold torch?
  split
  · exact absurd rfl other
  · rfl

end Request

end TouchDispatch
