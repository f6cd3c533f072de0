/-
**Slider moves are performed at once, in order, and disturb nothing else.**

* `Mode.calls`: the calls that switch to the mode with an id;
* `Occasion`: something that happens, with the state of the device when it does, so that what
  happens later meets the same device even if it happens alone;
* `Workshop.live`, `Workshop.chronicle`: a workshop after occasions, and what is seen of them;
* `Workshop.slideCalls`: the calls that the slider moves among them come to, each by the mapping
  that counts at its time;
* `Workshop.Direct`: no slider move ever waits;
* `asked_line`: what a single occasion asks for to switch the mode;
* `dispatch_slide_aside`: performing a slider move asks for nothing else, and changes nothing but
  what is only shown;
* `live_filter`: occasions go on in the same way without the slider;
* `slider_aside`: **the mode is switched by the slider moves alone, once for each and in order, and
  without them everything else is as it is.**
-/

import TouchDispatch.Proofs.Daemon.Failures
import TouchDispatch.Proofs.Daemon.Performing

namespace TouchDispatch

open Dialogue
open Settings (Store)

/-! ### Switching the mode -/

/-- The calls that switch to the mode with an id: what comes through, and how a call is announced
where the mode is about that. -/
def Mode.calls : Int → List Call
  | 0 => [.zen .off, .ringer .normal]
  | 1 => [.zen .off, .ringer .vibrate]
  | 2 => [.zen .off, .ringer .silent]
  | 3 => [.zen .importantInterruptions]
  | 4 => [.zen .alarms]
  | 5 => [.zen .noInterruptions]
  | _ => []

/-- A request to switch the mode. -/
def Request.mode? : Request → Option Call
  | .perform (.zen mode) => some (.zen mode)
  | .perform (.ringer mode) => some (.ringer mode)
  | _ => none

/-- What a slider move may ask for. -/
def Request.isSliding : Request → Bool
  | .now | .perform (.zen _) | .perform (.ringer _) | .perform (.vibrate _) => true
  | _ => false

theorem Mode.calls_eq (id : Int) :
    calls id = match ofId? id with
      | none => []
      | some mode => .zen mode.zen :: (mode.ringer.map Call.ringer).toList := by
  unfold calls ofId?
  split
  case h_7 zero one two three four five =>
    rw [if_neg zero, if_neg one, if_neg two, if_neg three, if_neg four, if_neg five]
  all_goals rfl

theorem mode?_eq_none {request : Request} (other : request.matter ≠ .mode) :
    request.mode? = none := by
  unfold Request.mode?
  split
  · exact absurd rfl other
  · exact absurd rfl other
  · rfl

theorem asked_mode_about {matter : Matter} {exchanges : List Exchange} (other : matter ≠ .mode)
    (about : ∀ exchange ∈ exchanges, About matter exchange.request) :
    asked Request.mode? exchanges = [] := by
  refine asked_eq_nil fun exchange member => mode?_eq_none fun mode => ?_
  rcases about exchange member with here | here
  · exact other (here.symm.trans mode)
  · cases here.symm.trans mode

namespace Core

variable {σ : Type} (host : Host σ) (device : σ) (core : Core) (position : Position)

/-- **A slider move asks for the mode that its position is mapped to.** -/
theorem asked_slide : asked Request.mode? ((core.slide position).transcript host device) =
    Mode.calls ((Settings.sliderMap core.table).modeAt position) := by
  rw [Mode.calls_eq]
  unfold slide
  dsimp only
  cases Mode.ofId? ((Settings.sliderMap core.table).modeAt position) with
  | none => rfl
  | some mode =>
    obtain ⟨zen, ringer⟩ := mode
    cases ringer with
    | none => rfl
    | some ringer => rfl

/-- **Performing a slider move asks for nothing else, and is recorded and no more.** -/
theorem dispatch_slide_aside :
    (core.dispatch (.slide position)).Ensures (fun request => request.isSliding = true)
      fun next => ∃ time, next = core.withStatus (·.recordGesture (.slide position) time) := by
  intro exchanges next ends
  obtain ⟨before, performed, time, performing, rfl, rfl⟩ := ends_performing ends
  cases performing with
  | slid slid =>
    refine ⟨List.forall_mem_append.mpr ⟨?_, List.forall_mem_singleton.mpr rfl⟩, time, rfl⟩
    cases slid <;> simp [Request.isSliding]

/-- Letting go of the slider asks for the mode that its position is mapped to. -/
theorem asked_route_slider :
    asked Request.mode?
        ((core.step (.key (.release (Key.slider position).scanCode))).transcript host device) =
      Mode.calls ((Settings.sliderMap core.table).modeAt position) := by
  show asked Request.mode? ((core.route (.release (Key.slider position).scanCode) >>=
    fun answer => return answer.2).transcript host device) = _
  rw [route_slider]
  unfold follow dispatch
  simp only [transcript_bind, transcript_pure, asked_append, List.append_nil, asked_slide]
  exact List.append_nil _

end Core

/-! ### Keys of the slider -/

/-- Whether an event is of a key of the slider, whatever happens to the key. -/
def KeyEvent.isSlider (event : KeyEvent) : Bool :=
  (event.key?.bind Key.position?).isSome

/-- The slider move that happens, if one does. -/
def Shift.position? : Shift → Option Position
  | .key event => event.position?
  | _ => none

/-- Whether something happens to a key of the slider. -/
def Shift.isSlider : Shift → Bool
  | .key event => event.isSlider
  | _ => false

/-- A key of the slider that is not let go of is passed on. -/
theorem idle_of_isSlider {event : KeyEvent} (slider : event.isSlider = true)
    (none : event.position? = none) : event.IsIdle := by
  intro release
  unfold KeyEvent.position? at none
  rw [if_pos release] at none
  unfold KeyEvent.isSlider at slider
  rw [none] at slider
  cases slider

/-- Something that happens, and the state of the device when it does. -/
structure Occasion (σ : Type) where
  shift : Shift
  device : σ

namespace Workshop

variable {σ : Type} (host : Host σ)

/-- The workshop with its device in another state. -/
def facing (shop : Workshop σ) (device : σ) : Workshop σ :=
  { shop with device }

/-- The workshop after an occasion. -/
def meet (shop : Workshop σ) (occasion : Occasion σ) : Workshop σ :=
  (shop.facing occasion.device).next host occasion.shift

/-- The workshop after occasions, one after another. -/
def live (shop : Workshop σ) (occasions : List (Occasion σ)) : Workshop σ :=
  occasions.foldl (meet host) shop

/-- What is seen of occasions, in order. -/
def chronicle (shop : Workshop σ) : List (Occasion σ) → List Line
  | [] => []
  | occasion :: rest =>
    (shop.facing occasion.device).line host occasion.shift :: (shop.meet host occasion).chronicle rest

/-- The calls that an occasion comes to if it is a slider move, by the mapping that counts then. -/
def callsOf (shop : Workshop σ) (shift : Shift) : List Call :=
  match shift.position? with
  | some position => Mode.calls ((Settings.sliderMap shop.core.table).modeAt position)
  | none => []

/-- The calls that the slider moves among occasions come to, in order. -/
def slideCalls (shop : Workshop σ) : List (Occasion σ) → List Call
  | [] => []
  | occasion :: rest => shop.callsOf occasion.shift ++ (shop.meet host occasion).slideCalls rest

/-! ### No slider move waits -/

/-- What waits and what is being performed are no slider moves: these never go through the slot. -/
structure Direct (shop : Workshop σ) : Prop where
  waiting : ∀ order, shop.core.slot.pending = some order → order.gesture.matter = .other
  hand : ∀ order, shop.hand = some order → order.gesture.matter = .other

variable {host} {shop : Workshop σ}

theorem Direct.step (direct : shop.Direct) {step : Step}
    (same : ((shop.core.step step).run host shop.device).1.slot = shop.core.slot) :
    (shop.step host step).Direct :=
  ⟨fun order waiting => direct.waiting order (same ▸ waiting), direct.hand⟩

theorem Direct.use (direct : shop.Direct) {use : Slot.Use} (taking : use = .take ∨ use = .tryTake) :
    (shop.use use).Direct := by
  have handed : (shop.core.slot.use use).1.handed? = shop.core.slot.pending ∧
      (shop.core.slot.use use).2.pending = none := by
    obtain ⟨⟨_, _, _, _, _, ⟨pending, closed⟩, _, _, _, _, _⟩, _, _, _, _, _⟩ := shop
    rcases taking with rfl | rfl
    · cases pending with
      | some order => exact ⟨rfl, rfl⟩
      | none => cases closed <;> exact ⟨rfl, rfl⟩
    · exact ⟨rfl, rfl⟩
  refine ⟨fun order waiting => ?_, fun order holding => direct.waiting order ?_⟩
  · cases handed.2.symm.trans waiting
  · exact handed.1.symm.trans holding

/-- **Whatever happens, no slider move comes to wait.** -/
theorem Direct.next (direct : shop.Direct) (shift : Shift) : (shop.next host shift).Direct := by
  have working : ∀ step, ((shop.core.step step).run host shop.device).1.tally = shop.core.tally →
      (shop.step host step).Direct := fun step tally =>
    direct.step (congrArg Tally.slot tally)
  cases shift with
  | key event =>
    have tally := Core.key_tally host shop.device shop.core event
    suffices waiting : ∀ order,
        ((shop.core.step (.key event)).run host shop.device).1.slot.pending = some order →
          order.gesture.matter = .other from ⟨waiting, direct.hand⟩
    intro order waiting
    dsimp only at tally
    split at tally
    · next action _ =>
      obtain ⟨now, submitted⟩ := tally
      have slot := congrArg Tally.slot submitted
      obtain rfl := Option.some.inj ((congrArg Slot.pending slot).symm.trans waiting)
      rfl
    · exact direct.waiting order ((congrArg (·.slot.pending) tally).symm.trans waiting)
    · exact direct.waiting order ((congrArg (·.slot.pending) tally).symm.trans waiting)
    · exact direct.waiting order ((congrArg (·.slot.pending) tally).symm.trans waiting)
  | report event => exact working _ (Core.report_tally (ends_run host _ shop.device))
  | deliver listener place => exact working _ (Core.deliver_tally (ends_run host _ shop.device))
  | settings deed => exact direct.step rfl
  | take =>
    unfold Workshop.next
    dsimp only
    split
    · exact direct
    · exact direct.use (Or.inl rfl)
  | tryTake =>
    unfold Workshop.next
    dsimp only
    split
    · exact direct
    · exact direct.use (Or.inr rfl)
  | finish =>
    unfold Workshop.next
    dsimp only
    split
    · next order busy =>
      have slot : ((shop.core.step (.dispatch order.gesture)).run host shop.device).1.slot =
          shop.core.slot := congrArg Tally.slot (Core.dispatch_tally (ends_run host _ shop.device))
      exact ⟨(direct.step slot).waiting, nofun⟩
    · exact direct
  | close => exact ⟨direct.waiting, direct.hand⟩

theorem direct_opening (host : Host σ) (device : σ) (disk : Disk) (store : Store)
    (presence : Presence) (switches : Option Switches) :
    (opening host device disk store presence switches).Direct := by
  have slot : (opening host device disk store presence switches).core.slot = {} :=
    congrArg Core.slot (Session.opening_core host device disk store presence switches)
  refine ⟨fun order waiting => ?_, nofun⟩
  rw [slot] at waiting
  cases waiting

/-! ### What is asked for to switch the mode -/

/-- **Only a slider move asks for a mode**, and for the one that its position is mapped to. -/
theorem asked_exchanges (direct : shop.Direct) (shift : Shift) :
    asked Request.mode? (shop.exchanges host shift) = shop.callsOf shift := by
  have quiet : ∀ step, step.matter ≠ .mode →
      asked Request.mode? ((shop.core.step step).transcript host shop.device) = [] := by
    intro step other
    have about := Core.step_about shop.core step _ _ (ends_run host _ shop.device)
    exact asked_mode_about other about.1
  cases shift with
  | key event =>
    show asked Request.mode? ((shop.core.step (.key event)).transcript host shop.device) =
      match event.position? with
        | some position => Mode.calls ((Settings.sliderMap shop.core.table).modeAt position)
        | none => []
    cases found : event.position? with
    | some position =>
      obtain rfl := Core.eq_release_of_position? found
      exact Core.asked_route_slider host shop.device shop.core position
    | none =>
      have other : (Step.key event).matter = .other := by
        show (if event.position?.isSome then Matter.mode else .other) = .other
        rw [found]
        rfl
      exact quiet _ (other ▸ nofun)
  | report event =>
    refine quiet _ ?_
    cases event <;> exact nofun
  | deliver | settings => exact quiet _ nofun
  | finish =>
    unfold exchanges callsOf step?
    cases busy : shop.hand with
    | none => rfl
    | some order =>
      refine quiet _ fun mode => ?_
      cases (direct.hand order busy).symm.trans mode
  | take | tryTake | close => rfl

theorem asked_chronicle (direct : shop.Direct) (occasions : List (Occasion σ)) :
    asked Request.mode? ((shop.chronicle host occasions).flatMap Line.exchanges) =
      shop.slideCalls host occasions := by
  induction occasions generalizing shop with
  | nil => rfl
  | cons occasion rest ih =>
    have there : (shop.facing occasion.device).Direct := ⟨direct.waiting, direct.hand⟩
    show asked Request.mode? (((shop.facing occasion.device).line host occasion.shift ::
      (shop.meet host occasion).chronicle host rest).flatMap Line.exchanges) = _
    have later : (shop.meet host occasion).Direct := there.next occasion.shift
    rw [List.flatMap_cons, asked_append, ih later]
    exact congrArg (· ++ _) (asked_exchanges there occasion.shift)

end Workshop

/-! ### Runs without the slider -/

namespace Unseen

/-- The hold was armed at the same time. -/
def SameHold (one two : Unseen) : Prop :=
  two.endsAt = one.endsAt

/-- The same but for the record of the gestures that were performed. -/
def SameButRecord (one two : Unseen) : Prop :=
  two.endsAt = one.endsAt ∧ two.dozePulses = one.dozePulses

theorem SameHold.stable : Stable SameHold :=
  ⟨fun _ _ => rfl, fun _ _ same => same⟩

end Unseen

namespace Core

variable {σ : Type} {one two core : Core}

theorem Alike.held (alike : one.Alike Unseen.SameButRecord two) :
    one.Alike Unseen.SameHold two := by
  obtain ⟨unseen, rfl, here⟩ := alike
  exact ⟨unseen, rfl, here.1⟩

/-- **On one device, states that are the same but for the record of gestures take every step
alike.** That a pulse was sent is seen by both, as they make the same exchanges. -/
theorem step_sameButRecord (alike : one.Alike Unseen.SameButRecord two) (host : Host σ) (device : σ)
    (step : Step) :
    ((one.step step).run host device).1.Alike Unseen.SameButRecord
        ((two.step step).run host device).1 ∧
      (one.step step).transcript host device = (two.step step).transcript host device := by
  have woken : Woken Unseen.SameHold := fun _ _ same => same
  have before : two.pulses = one.pulses := by
    obtain ⟨unseen, rfl, here⟩ := alike
    exact here.2
  have beside := step_alike step Unseen.SameHold.stable (fun _ => woken) alike.held
  obtain ⟨results, exchanged⟩ := beside.run_same host device
  refine ⟨?_, exchanged⟩
  have first := step_pulses (ends_run host (one.step step) device)
  have second := step_pulses (ends_run host (two.step step) device)
  rw [← exchanged, before, ← first] at second
  obtain ⟨unseen, same, here⟩ := results
  rw [same] at second ⊢
  exact ⟨unseen, rfl, here, second⟩

/-- **A key of the slider asks for nothing but what a slider move may ask for, and leaves at most a
record behind.** -/
theorem step_slider {event : KeyEvent} (slider : event.isSlider = true) :
    (core.step (.key event)).Ensures (fun request => request.isSliding = true) fun next =>
      next = core ∨ ∃ position time, next =
        core.withStatus (·.recordGesture (.slide position) time) := by
  have routed : (core.route event).Ensures (fun request => request.isSliding = true) fun answer =>
      answer.2 = core ∨ ∃ position time, answer.2 =
        core.withStatus (·.recordGesture (.slide position) time) := by
    cases found : event.position? with
    | some position =>
      obtain rfl := eq_release_of_position? found
      rw [route_slider]
      exact .bind (dispatch_slide_aside core position) fun next final =>
        .pure (Or.inr ⟨position, final⟩)
    | none =>
      rw [route_idle core (idle_of_isSlider slider found)]
      exact .pure (Or.inl rfl)
  exact .bind routed fun answer final => .pure final

end Core

namespace Workshop

variable {σ : Type} {host : Host σ} {thin full : Workshop σ}

/-- A key of the slider is no business of a workshop in which nothing happens to it. -/
theorem Alike.slider (host : Host σ) (alike : thin.Alike Unseen.SameButRecord full) {shift : Shift}
    (slider : shift.isSlider = true) :
    thin.Alike Unseen.SameButRecord (full.next host shift) ∧
      ∀ exchange ∈ full.exchanges host shift, exchange.request.isSliding = true := by
  cases shift with
  | key event =>
    obtain ⟨asked, final⟩ := Core.step_slider slider _ _
      (ends_run host (full.core.step (.key event)) full.device)
    refine ⟨⟨?_, alike.hand, alike.taken⟩, asked⟩
    show thin.core.Alike _ ((full.core.step (.key event)).run host full.device).1
    rcases final with same | ⟨position, time, same⟩
    · rw [same]
      exact alike.core
    · rw [same]
      obtain ⟨unseen, core, here⟩ := alike.core
      rw [core]
      exact ⟨unseen.recorded (.slide position) time, rfl, here⟩
  | _ => cases slider

/-- **Whatever else happens is seen alike in the two workshops.** -/
theorem Alike.line (host : Host σ) (alike : thin.Alike Unseen.SameButRecord full) (device : σ)
    (shift : Shift) :
    (thin.facing device).line host shift = (full.facing device).line host shift ∧
      ((thin.facing device).next host shift).Alike Unseen.SameButRecord
        ((full.facing device).next host shift) := by
  have stepped := Core.step_sameButRecord alike.core host device
  have there : (thin.facing device).Alike Unseen.SameButRecord (full.facing device) :=
    ⟨alike.core, alike.hand, alike.taken⟩
  refine ⟨?_, there.next fun step _ => (stepped step).1⟩
  have exchanged :
      (thin.facing device).exchanges host shift = (full.facing device).exchanges host shift := by
    unfold exchanges
    rw [there.step? shift]
    cases (thin.facing device).step? shift with
    | none => rfl
    | some step => exact (stepped step).2
  have routed : (thin.facing device).route? host shift = (full.facing device).route? host shift := by
    cases shift with
    | key event =>
      have beside := Core.route_alike Unseen.SameHold.stable alike.core.held event
      exact congrArg some (beside.run_same host device).1.1
    | _ => rfl
  unfold Workshop.line
  rw [exchanged, routed]

/-- **Occasions go on in the same way without the slider.** -/
theorem live_filter (host : Host σ) (alike : thin.Alike Unseen.SameButRecord full)
    (occasions : List (Occasion σ)) :
    (full.chronicle host occasions).filter (fun line => !line.shift.isSlider) =
        thin.chronicle host (occasions.filter fun occasion => !occasion.shift.isSlider) ∧
      (∀ line ∈ full.chronicle host occasions, line.shift.isSlider = true →
        ∀ exchange ∈ line.exchanges, exchange.request.isSliding = true) ∧
      (thin.live host (occasions.filter fun occasion => !occasion.shift.isSlider)).Alike
        Unseen.SameButRecord (full.live host occasions) := by
  induction occasions generalizing thin full with
  | nil => exact ⟨rfl, List.forall_mem_nil _, alike⟩
  | cons occasion rest ih =>
    have listed : full.chronicle host (occasion :: rest) =
        (full.facing occasion.device).line host occasion.shift ::
          (full.meet host occasion).chronicle host rest := rfl
    rw [listed]
    cases slider : occasion.shift.isSlider with
    | true =>
      have there : thin.Alike Unseen.SameButRecord (full.facing occasion.device) :=
        ⟨alike.core, alike.hand, alike.taken⟩
      obtain ⟨next, asked⟩ := there.slider host slider
      obtain ⟨seen, others, final⟩ := ih next
      have left :
          (!((full.facing occasion.device).line host occasion.shift).shift.isSlider) = false :=
        congrArg (!·) slider
      rw [List.filter_cons, left, List.filter_cons, slider]
      exact ⟨seen, List.forall_mem_cons.mpr ⟨fun _ => asked, others⟩, final⟩
    | false =>
      obtain ⟨same, next⟩ := alike.line host occasion.device occasion.shift
      obtain ⟨seen, others, final⟩ := ih next
      have kept : (!((full.facing occasion.device).line host occasion.shift).shift.isSlider) = true :=
        congrArg (!·) slider
      rw [List.filter_cons, kept, List.filter_cons, slider]
      refine ⟨?_, List.forall_mem_cons.mpr ⟨fun other => ?_, others⟩, final⟩
      · exact congrArg₂ List.cons same.symm seen
      · cases slider.symm.trans other

end Workshop

/-- **Slider moves are performed at once, in order, and disturb nothing else.** Whatever happens to
the daemon, and on whatever device, the calls that switch the mode are those of the slider moves,
one after another, each by the mapping that counts at its time.

Without everything that happens to the keys of the slider, all else that happens on the same device
is seen just as it was; the keys of the slider ask for the mode, a vibration and the time, and for
nothing more. What waits and what is being performed are the same then, and so is the whole state of
the daemon but for the record of the gestures that were performed. As this is so for every run, it
is so after every step of one. -/
theorem slider_aside {σ : Type} (host : Host σ) (device : σ) (disk : Disk) (store : Store)
    (presence : Presence) (switches : Option Switches) (occasions : List (Occasion σ)) :
    let shop := Workshop.opening host device disk store presence switches
    let others := occasions.filter fun occasion => !occasion.shift.isSlider
    let full := shop.live host occasions
    let thin := shop.live host others
    asked Request.mode? ((shop.chronicle host occasions).flatMap Line.exchanges) =
      shop.slideCalls host occasions ∧
    (shop.chronicle host occasions).filter (fun line => !line.shift.isSlider) =
      shop.chronicle host others ∧
    (∀ line ∈ shop.chronicle host occasions, line.shift.isSlider = true →
      ∀ exchange ∈ line.exchanges, exchange.request.isSliding = true) ∧
    full.hand = thin.hand ∧ full.taken = thin.taken ∧
    ∃ lastGesture lastGestureAt dispatched, full.core = thin.core.withStatus fun status =>
      { status with
        lastGesture
        lastGestureAt
        counters := { status.counters with dispatched } } := by
  intro shop others full thin
  have direct : shop.Direct :=
    Workshop.direct_opening host device disk store presence switches
  have start : shop.Alike Unseen.SameButRecord shop :=
    ⟨.refl ⟨rfl, rfl⟩, rfl, rfl⟩
  obtain ⟨seen, asked, final⟩ := Workshop.live_filter host start occasions
  obtain ⟨unseen, core, endsAt, dozePulses⟩ := final.core
  refine ⟨Workshop.asked_chronicle direct occasions, seen, asked, final.hand, final.taken,
    unseen.lastGesture, unseen.lastGestureAt, unseen.dispatched, core.trans ?_⟩
  unfold Core.withUnseen
  rw [endsAt, dozePulses]
  rfl

end TouchDispatch
