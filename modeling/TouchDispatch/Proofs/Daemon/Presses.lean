/-
**No media button is stuck.**

* `Press`: a button goes down and, strictly later, up;
* `Paired`: the events of media buttons among some requests are those of presses, each of them two
  requests one right after the other;
* `Step.button?`, `Entry.readiness`, `Entry.pressed?`: the button of a media gesture, what the
  device says of itself in its course, and the button that is pressed therefore;
* `Pressing`: a step presses the button that it is to press, and no other;
* `pressing`: every step does so;
* `no_button_stuck`: **the events of media buttons are pairs of down and up, one pair for each media
  gesture that is performed when the system has come up.**
-/

import TouchDispatch.Proofs.Daemon.Gesturing

namespace TouchDispatch

open Dialogue

/-! ### Presses -/

/-- A button goes down and up. -/
structure Press where
  button : MediaButton
  downAt : Int
  upAt : Int
  later : downAt < upAt

namespace Press

/-- The button goes down: the event happens when it does. -/
def down (press : Press) : MediaEvent :=
  ⟨press.button, .down, press.downAt, press.downAt⟩

/-- The button goes up, and says when it went down. -/
def up (press : Press) : MediaEvent :=
  ⟨press.button, .up, press.downAt, press.upAt⟩

/-- The two events of a press. -/
def events (press : Press) : List MediaEvent :=
  [press.down, press.up]

end Press

/-- The events of media buttons among some requests are those of presses. Nothing is requested
between the two events of a press. -/
inductive Paired : List Request → List Press → Prop
  | nil : Paired [] []
  | other {request : Request} {requests : List Request} {presses : List Press}
      (silent : request.media? = none) (rest : Paired requests presses) :
      Paired (request :: requests) presses
  | press {requests : List Request} {presses : List Press} (press : Press)
      (rest : Paired requests presses) :
      Paired (.perform (.media press.down) :: .perform (.media press.up) :: requests)
        (press :: presses)

namespace Paired

variable {requests more : List Request} {presses others : List Press}

theorem silent (silent : ∀ request ∈ requests, request.media? = none) : Paired requests [] := by
  induction requests with
  | nil => exact .nil
  | cons request rest ih =>
    obtain ⟨here, later⟩ := List.forall_mem_cons.mp silent
    exact .other here (ih later)

theorem append (one : Paired requests presses) (two : Paired more others) :
    Paired (requests ++ more) (presses ++ others) := by
  induction one with
  | nil => exact two
  | other silent _ ih => exact .other silent ih
  | press press _ ih => exact .press press ih

/-- **The events are those of the presses, one after another.** -/
theorem events (paired : Paired requests presses) :
    requests.filterMap Request.media? = presses.flatMap Press.events := by
  induction paired with
  | nil => rfl
  | other silent _ ih => rw [List.filterMap_cons_none silent, ih]
  | press press _ ih => exact congrArg (fun events => press.down :: press.up :: events) ih

end Paired

/-- No event of a media button is lost among the requests to the device. -/
theorem asked_media (exchanges : List Exchange) :
    asked Request.media? exchanges =
      (asked Request.toDevice? exchanges).filterMap Request.media? := by
  unfold asked
  rw [List.filterMap_filterMap]
  refine congrArg (List.filterMap · exchanges) (funext fun exchange => ?_)
  cases exchange.request <;> rfl

/-! ### One step -/

/-- The button of a media gesture. -/
def Step.button? (step : Step) : Option MediaButton :=
  match step.gesture? with
  | some (.run (.media button)) => some button
  | _ => none

/-- What an exchange says of the system: whether it has come up. -/
def Exchange.ready? : Exchange → Option Bool
  | ⟨.systemReady, ready⟩ => some ready
  | _ => none

/-- What is said of the system in the course of a step. -/
def Entry.readiness (entry : Entry) : List Bool :=
  entry.exchanges.filterMap Exchange.ready?

/-- The button that is pressed in a step: that of a media gesture, if the system has come up. -/
def Entry.pressed? (entry : Entry) : Option MediaButton :=
  if entry.readiness = [true] then entry.step.button? else none

/-- A step presses the button that it is to press, and a media gesture asks once whether it is
to. -/
structure Pressing (entry : Entry) : Prop where
  paired : ∃ presses, Paired (asked Request.toDevice? entry.exchanges) presses ∧
    presses.map Press.button = entry.pressed?.toList
  asks : entry.step.button?.isSome = true → ∃ ready, entry.readiness = [ready]

variable {core next : Core} {exchanges : List Exchange} {entry : Entry}

/-- Where no button is sent and none was to be, nothing is pressed. -/
theorem Pressing.unpressed (other : entry.step.button? = none)
    (unasked : asked Request.media? entry.exchanges = []) : Pressing entry := by
  refine ⟨⟨[], .silent ?_, ?_⟩, ?_⟩
  · rw [asked_media] at unasked
    exact List.filterMap_eq_nil_iff.mp unasked
  · unfold Entry.pressed?
    rw [other, ite_self]
    rfl
  · rw [other]
    exact nofun

/-- **What is sent of a button is one press**, if the system has come up, and nothing otherwise. -/
theorem Pressed.paired {button : MediaButton} (pressed : Pressed button exchanges) :
    ∃ ready, exchanges.filterMap Exchange.ready? = [ready] ∧
      ∃ presses, Paired (asked Request.toDevice? exchanges) presses ∧
        presses.map Press.button = if ready then [button] else [] := by
  cases pressed with
  | dropped => exact ⟨false, rfl, [], .other rfl .nil, rfl⟩
  | pressed downAt upAt =>
    have later : downAt < max upAt (downAt + 1) := by omega
    exact ⟨true, rfl, [⟨button, downAt, _, later⟩],
      .other rfl (.press ⟨button, downAt, _, later⟩ .nil), rfl⟩

/-- No other gesture sends a button. -/
theorem Performing.unpressed {gesture : Gesture}
    (performing : Performing core gesture exchanges next)
    (other : ∀ button, gesture ≠ .run (.media button)) : asked Request.media? exchanges = [] := by
  cases performing with
  | missing sought => exact sought.asked_eq_nil rfl
  | dropped check sought =>
    rw [asked_append, sought.asked_eq_nil rfl]
    rfl
  | switched check time locked done sought late feels =>
    rw [asked_append, sought.asked_eq_nil rfl]
    show asked Request.media? (_ ++ [_]) = []
    rw [asked_append, feels.asked_eq_nil rfl]
    rfl
  | media => exact absurd rfl (other _)
  | called done calls feels =>
    rw [asked_append, feels.asked_eq_nil rfl]
    exact asked_apart Request.media?_ofGesture
      (List.forall_mem_singleton.mpr (Request.call?_apart calls))
  | slid slid => cases slid <;> rfl

/-- **A media gesture presses its button, if the system has come up.** -/
theorem Performing.pressing {button : MediaButton} {time : Int}
    (performing : Performing core (.run (.media button)) exchanges next)
    (performs : entry.step.button? = some button)
    (course : entry.exchanges = exchanges ++ [⟨.now, time⟩]) : Pressing entry := by
  cases performing with
  | called done calls => cases calls
  | @media felt pressed _ armedAt locked feels presses =>
    obtain ⟨ready, answers, made, paired, buttons⟩ := presses.paired
    have readiness : entry.readiness = [ready] := by
      unfold Entry.readiness
      rw [course, List.filterMap_append, List.filterMap_append, List.filterMap_append, answers]
      cases feels <;> rfl
    have felt : Paired (asked Request.toDevice? felt) [] := by
      cases feels with
      | click => exact .other rfl .nil
      | silent => exact .nil
    have armed : Paired (asked Request.toDevice? (core.hold.arming armedAt locked)) [] :=
      .other rfl .nil
    refine ⟨⟨made, ?_, ?_⟩, fun _ => ⟨ready, readiness⟩⟩
    -- Reading the clock for the record is no request to the device.
    · have recorded : asked Request.toDevice? [⟨.now, time⟩] = [] := rfl
      rw [course, asked_append, asked_append, asked_append, recorded, List.append_nil]
      exact felt.append (armed.append paired)
    · unfold Entry.pressed?
      rw [buttons, readiness, performs]
      cases ready <;> rfl

/-- **Every step presses the button that it is to press, and no other.** -/
theorem pressing (ends : (core.step entry.step).Ends entry.exchanges next) : Pressing entry := by
  cases performs : entry.step.gesture? with
  | none =>
    refine .unpressed ?_ (asked_apart Request.media?_ofGesture
      (Core.step_apart core performs _ _ ends).1)
    unfold Step.button?
    rw [performs]
  | some gesture =>
    obtain ⟨before, performed, time, performing, course, _⟩ := ends_gesture performs ends
    by_cases media : ∃ button, gesture = .run (.media button)
    · obtain ⟨button, rfl⟩ := media
      refine performing.pressing ?_ course
      unfold Step.button?
      rw [performs]
    · have other : ∀ button, gesture ≠ .run (.media button) := fun button same =>
        media ⟨button, same⟩
      refine .unpressed ?_ ?_
      · unfold Step.button?
        rw [performs]
        split
        · next same => exact absurd (Option.some.inj same) (other _)
        · rfl
      · rw [course, asked_append, performing.unpressed other]
        rfl

/-! ### Runs -/

/-- The presses of all steps, one after another. -/
theorem pressing_journal {journal : List Entry} (each : ∀ entry ∈ journal, Pressing entry) :
    ∃ presses, Paired (asked Request.toDevice? (exchangesOf journal)) presses ∧
      presses.map Press.button = journal.filterMap Entry.pressed? := by
  induction journal with
  | nil => exact ⟨[], .nil, rfl⟩
  | cons entry rest ih =>
    obtain ⟨here, later⟩ := List.forall_mem_cons.mp each
    obtain ⟨one, pairedOne, buttonsOne⟩ := here.paired
    obtain ⟨more, pairedMore, buttonsMore⟩ := ih later
    refine ⟨one ++ more, ?_, ?_⟩
    · rw [exchangesOf, List.flatMap_cons, asked_append]
      exact pairedOne.append pairedMore
    · rw [List.map_append, buttonsOne, buttonsMore]
      simp only [List.filterMap_eq_flatMap_toList, List.flatMap_cons]

/-- **No media button is stuck.** Whatever happens to the daemon, whatever fails and whatever the
clock shows, the events of media buttons that are sent are those of presses: of each the two events
are sent one right after the other, with nothing asked of the device in between, and the button goes
up strictly later than it went down. The presses are those of the media gestures that are performed
when the system has come up, in order, and of their buttons. So it is within each step as well, and
a media gesture asks exactly once whether the system has come up. -/
theorem no_button_stuck {σ : Type} (host : Host σ) (session : Session σ) (steps : List Step) :
    let journal := session.journal host steps
    (∃ presses : List Press,
      Paired (asked Request.toDevice? (exchangesOf journal)) presses ∧
      asked Request.media? (exchangesOf journal) = presses.flatMap Press.events ∧
      presses.map Press.button = journal.filterMap Entry.pressed?) ∧
    ∀ entry ∈ journal,
      (entry.step.button?.isSome = true → ∃ ready, entry.readiness = [ready]) ∧
      ∃ presses : List Press,
        Paired (asked Request.toDevice? entry.exchanges) presses ∧
        asked Request.media? entry.exchanges = presses.flatMap Press.events ∧
        presses.map Press.button = entry.pressed?.toList := by
  intro journal
  have each : ∀ entry ∈ journal, Pressing entry :=
    Session.forall_entry host Pressing (fun _ _ _ => pressing) session steps
  refine ⟨?_, fun entry member => ?_⟩
  · obtain ⟨presses, paired, buttons⟩ := pressing_journal each
    exact ⟨presses, paired, (asked_media _).trans paired.events, buttons⟩
  · obtain ⟨⟨presses, paired, buttons⟩, asks⟩ := each entry member
    exact ⟨asks, presses, paired, (asked_media _).trans paired.events, buttons⟩

/-- The clock stands still and the button does not go down, and yet it goes up a millisecond
later. -/
example :
    let bench : Bench := { clock := 0, failing := [.mediaDown] }
    let session := Session.opening Bench.host bench {} {} {} none
    asked Request.media? (exchangesOf
        (session.journal Bench.host [.dispatch (.run (.media .next))])) =
      [⟨.next, .down, 0, 0⟩, ⟨.next, .up, 0, 1⟩] := by
  decide

end TouchDispatch
