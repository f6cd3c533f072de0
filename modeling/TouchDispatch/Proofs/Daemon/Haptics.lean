/-
**Every gesture is felt as it is to be, and no other way.**

* `Mode.confirmation?`: the vibration that confirms a move to the mode with an id, if there is one;
* `clickOf?`, `Gesture.effect?`, `Moment.effect?`: the vibration by which a gesture is to be felt;
* `Slid.confirmed`: a slider move is confirmed at the end;
* `Performing.vibrated`, `ends_vibrated`: a step asks for the vibration that it is to ask for;
* `gestures_felt`: **the vibrations of a run are those of its gestures, one for each, in order.**
-/

import TouchDispatch.Proofs.Daemon.Holding
import TouchDispatch.Proofs.Daemon.Slider

namespace TouchDispatch

open Dialogue

/-! ### How gestures are to be felt -/

/-- The vibration that confirms a move to the mode with an id; there is none for unknown modes. -/
def Mode.confirmation? : Int → Option Effect
  | 0 => some .doubleClick
  | 1 => some .thud
  | 2 | 3 | 4 | 5 => some .pop
  | _ => none

theorem Mode.confirmation?_eq (id : Int) :
    confirmation? id = (ofId? id).map fun _ => effect id := by
  unfold confirmation? ofId?
  split
  case h_7 zero one two three four five =>
    rw [if_neg zero, if_neg one, if_neg two, if_neg three, if_neg four, if_neg five]
    rfl
  all_goals rfl

/-- The click by which gestures are felt, if the settings want that. -/
def clickOf? (table : Settings.Table) : Option Effect :=
  if Settings.feedback table then some .click else none

/-- The vibration by which a gesture is to be felt; for the torch it matters whether it was told to
go on or off. -/
def Gesture.effect? (table : Settings.Table) (told : Bool) : Gesture → Option Effect
  | .run .torch => if told then clickOf? table else none
  | .run _ => clickOf? table
  | .slide position => Mode.confirmation? ((Settings.sliderMap table).modeAt position)

/-- The vibration that is to be felt in a step, by the settings that count then. -/
def Moment.effect? (moment : Moment) : Option Effect :=
  moment.step.gesture?.bind
    (Gesture.effect? moment.core.table !(asked Request.torch? moment.exchanges).isEmpty)

/-! ### Courses -/

section Courses

variable {core next : Core} {exchanges : List Exchange}

theorem Felt.vibrated {table : Settings.Table} (feels : Felt table exchanges) :
    asked Request.vibrate? exchanges = (clickOf? table).toList := by
  unfold clickOf?
  cases feels with
  | click done wanted =>
    rw [wanted]
    rfl
  | silent unwanted =>
    rw [unwanted]
    rfl

/-- **A slider move sets what its mode is about and is confirmed then**, and asks for nothing
else. -/
theorem Slid.confirmed {id : Int} (slid : Slid id exchanges) :
    asked Request.toDevice? exchanges =
        (Mode.calls id ++ (Mode.confirmation? id).toList.map Call.vibrate).map Request.perform ∧
      asked Request.vibrate? exchanges = (Mode.confirmation? id).toList := by
  rw [Mode.calls_eq, Mode.confirmation?_eq]
  cases slid with
  | unknown unknown =>
    rw [unknown]
    exact ⟨rfl, rfl⟩
  | quiet mode =>
    rw [mode]
    exact ⟨rfl, rfl⟩
  | rung mode =>
    rw [mode]
    exact ⟨rfl, rfl⟩

/-- **A gesture is felt as it is to be**: the torch gesture between the check for repeats and
telling the torch to go on or off, a slider move at the end, and all others before they do
anything. -/
theorem Performing.vibrated {gesture : Gesture}
    (performing : Performing core gesture exchanges next) :
    asked Request.vibrate? exchanges =
      (gesture.effect? core.table !(asked Request.torch? exchanges).isEmpty).toList := by
  cases performing with
  | missing sought =>
    rw [sought.asked_eq_nil rfl, sought.asked_eq_nil rfl]
    rfl
  | dropped check sought =>
    rw [asked_append, asked_append, sought.asked_eq_nil rfl, sought.asked_eq_nil rfl]
    rfl
  | @switched search felt camera check armedAt locked done sought late feels =>
    have told : asked Request.torch? (search ++ (⟨.now, check⟩ ::
        (core.hold.arming armedAt locked ++
          (felt ++ [⟨.perform (.torch camera (!core.lamp.on)), done⟩])))) =
            [(camera, !core.lamp.on)] := by
      rw [asked_append, sought.asked_eq_nil rfl]
      show asked Request.torch? (felt ++ [_]) = _
      rw [asked_append, feels.asked_eq_nil rfl]
      rfl
    -- The click comes after the lock and before the torch is told.
    rw [told, asked_append, sought.asked_eq_nil rfl]
    show asked Request.vibrate? (felt ++ [_]) = _
    rw [asked_append, feels.vibrated]
    exact List.append_nil _
  | @media felt pressed button armedAt locked feels presses =>
    have silent : asked Request.vibrate? pressed = [] := by
      cases presses <;> rfl
    rw [asked_append, asked_append, silent, feels.vibrated]
    exact List.append_nil _
  | @called _ action _ done calls feels =>
    rw [asked_append, feels.vibrated, asked_apart Request.vibrate?_ofGesture
      (List.forall_mem_singleton.mpr (Request.call?_apart calls)), List.append_nil]
    cases action with
    | torch => cases calls
    | _ => rfl
  | slid slid => exact slid.confirmed.2

end Courses

/-! ### Steps and runs -/

section Steps

variable {moment : Moment} {next : Core}

/-- **A step asks for the vibration that is to be felt in it, and for no other.** -/
theorem ends_vibrated (ends : (moment.core.step moment.step).Ends moment.exchanges next) :
    asked Request.vibrate? moment.exchanges = moment.effect?.toList := by
  unfold Moment.effect?
  cases performs : moment.step.gesture? with
  | none =>
    exact asked_apart Request.vibrate?_ofGesture (Core.step_apart _ performs _ _ ends).1
  | some gesture =>
    obtain ⟨before, performed, time, performing, course, _⟩ := ends_gesture performs ends
    have recorded : asked Request.vibrate? moment.exchanges = asked Request.vibrate? before ∧
        asked Request.torch? moment.exchanges = asked Request.torch? before := by
      rw [course, asked_append, asked_append]
      exact ⟨List.append_nil _, List.append_nil _⟩
    rw [recorded.1, recorded.2, performing.vibrated]
    rfl

/-- A slider move is confirmed after all else that it asks for. -/
theorem ends_confirmed {position : Position}
    (slides : moment.step.gesture? = some (.slide position))
    (ends : (moment.core.step moment.step).Ends moment.exchanges next) :
    let id := (Settings.sliderMap moment.core.table).modeAt position
    asked Request.toDevice? moment.exchanges =
      (Mode.calls id ++ (Mode.confirmation? id).toList.map Call.vibrate).map Request.perform := by
  intro id
  obtain ⟨before, performed, time, performing, course, _⟩ := ends_gesture slides ends
  cases performing with
  | slid slid =>
    rw [course, asked_append, slid.confirmed.1]
    exact List.append_nil _

/-- A torch gesture that finds no camera or comes too soon is not felt. -/
theorem effect?_torch (torch : moment.step = .dispatch (.run .torch))
    (ends : (moment.core.step moment.step).Ends moment.exchanges next)
    (ignored : moment.core.lamp.camera = none ∧ ¬ CameraFound moment.exchanges ∨
      ∃ check, (clockReadings moment.exchanges).head? = some check ∧
        Time.elapsed moment.core.lamp.armedAt check < moment.core.hold.millis) :
    moment.effect? = none := by
  have idle : moment.arms = false := by
    refine Bool.eq_false_iff.mpr fun arms => ?_
    obtain ⟨known, check, read, late⟩ := (arms_torch_iff torch ends).mp arms
    rcases ignored with ⟨unknown, unfound⟩ | ⟨other, first, soon⟩
    · rw [unknown] at known
      exact known.elim nofun unfound
    · obtain rfl := Option.some.inj (read.symm.trans first)
      exact absurd soon (Int.not_lt.mpr late)
  have told : (!(asked Request.torch? moment.exchanges).isEmpty) = false := by
    unfold Entry.arms at idle
    rw [torch] at idle
    exact idle
  unfold Moment.effect?
  rw [torch, told]
  rfl

end Steps

/-- **Every gesture is felt as it is to be, and no other way.** Whatever happens to the daemon and
to its settings, and whatever fails, the vibrations of a run are those of its gestures, in order,
each by the settings that count at its time. So it is in each step; a slider move asks for its
vibration after all else, and a torch gesture for none if there is no camera or if it comes too
soon. -/
theorem gestures_felt {σ : Type} (host : Host σ) (session : Session σ) (steps : List Step) :
    let moments := session.moments host steps
    moments.map Moment.toEntry = session.journal host steps ∧
    asked Request.vibrate? (exchangesOf (session.journal host steps)) =
      moments.filterMap Moment.effect? ∧
    ∀ moment ∈ moments,
      asked Request.vibrate? moment.exchanges = moment.effect?.toList ∧
      (∀ position, moment.step.gesture? = some (.slide position) →
        let id := (Settings.sliderMap moment.core.table).modeAt position
        asked Request.toDevice? moment.exchanges =
          (Mode.calls id ++ (Mode.confirmation? id).toList.map Call.vibrate).map Request.perform) ∧
      (moment.step = .dispatch (.run .torch) →
        (moment.core.lamp.camera = none ∧ ¬ CameraFound moment.exchanges ∨
          ∃ check, (clockReadings moment.exchanges).head? = some check ∧
            Time.elapsed moment.core.lamp.armedAt check < moment.core.hold.millis) →
        asked Request.vibrate? moment.exchanges = []) := by
  intro moments
  have each : ∀ moment ∈ moments, ∃ next,
      (moment.core.step moment.step).Ends moment.exchanges next :=
    session.forall_moment host _ (fun _ next ends => ⟨next, ends⟩) steps
  refine ⟨session.moments_journal host steps, ?_, fun moment member => ?_⟩
  · calc asked Request.vibrate? (exchangesOf (session.journal host steps))
        = moments.flatMap fun moment => asked Request.vibrate? moment.exchanges := by
          rw [asked_exchangesOf, ← session.moments_journal host steps, List.flatMap_map]
      _ = moments.flatMap fun moment => moment.effect?.toList := by
          refine List.flatMap_congr fun moment member => ?_
          obtain ⟨next, ends⟩ := each moment member
          exact ends_vibrated ends
      _ = moments.filterMap Moment.effect? := (List.filterMap_eq_flatMap_toList _ _).symm
  · obtain ⟨next, ends⟩ := each moment member
    refine ⟨ends_vibrated ends, fun position slides => ends_confirmed slides ends,
      fun torch ignored => ?_⟩
    rw [ends_vibrated ends, effect?_torch torch ends ignored]
    rfl

/-- Of two torch gestures in a row only the first is felt, and then a move of the slider. -/
example :
    let table : Settings.Table := [("device_off_screen_gesture_feedback_enabled", .text "1")]
    let session := Session.opening Bench.host {} {} { table } {} none
    asked Request.vibrate? (exchangesOf (session.journal Bench.host
        [.dispatch (.run .torch), .dispatch (.run .torch), .dispatch (.slide .bottom)])) =
      [.click, .doubleClick] := by
  decide +kernel

end TouchDispatch
