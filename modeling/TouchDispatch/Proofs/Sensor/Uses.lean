/-
**What the sensors remember is what happened since the display went off.**

* `DozeSensors.Use`, `DozeSensors.after`: everything that is done with the sensors, and the sensors
  after some of it;
* `Dark`: the display went off, and has been reported neither on nor off since;
* `lit_or_dark`: unless the display was reported last as on, or never, it is dark;
* `inForce`, `settings_after`: the settings of the sensors are those that they were given last;
* `window_after_dark`, `window_after_deaf`: **the window of the proximity sensor holds the last
  sample since the display went off**, if it was of use then, and is closed otherwise;
* `tiltAt_after_dark`, `tiltAt_after_deaf`: **that of the tilt sensor holds the last sample that was
  accepted since then**;
* `closed_after_lit`: with the display on no window is open.
-/

import Mathlib.Data.List.Induction
import TouchDispatch.Sensor.Doze

namespace TouchDispatch.DozeSensors

/-- Something that is done with the sensors. -/
inductive Use where
  | displayOff (now : Int)
  | displayOn
  | proximity (sample : ProximitySample) (now : Int)
  | tilt (triggered : Bool) (now : Int)
  | configure (features : DozeFeatures) (proximityCheck : Bool)

namespace Use

/-- Whether the display is reported on or off. -/
def isDisplay : Use → Bool
  | displayOff _ | displayOn => true
  | _ => false

/-- When the display is reported off. -/
def off? : Use → Option Int
  | displayOff now => some now
  | _ => none

/-- A sample of the proximity sensor, and its time. -/
def sample? : Use → Option (ProximitySample × Int)
  | proximity sample now => some (sample, now)
  | _ => none

/-- New settings. -/
def settings? : Use → Option (DozeFeatures × Bool)
  | configure features proximityCheck => some (features, proximityCheck)
  | _ => none

/-- When something is done, if the sensors are told so. -/
def time? : Use → Option Int
  | displayOff now | proximity _ now | tilt _ now => some now
  | displayOn | configure .. => none

end Use

/-- The sensors after something was done with them. -/
def next (sensors : DozeSensors) : Use → DozeSensors
  | .displayOff now => sensors.displayOff now
  | .displayOn => sensors.displayOn
  | .proximity sample now => (sensors.proximity sample now).2
  | .tilt triggered now => (sensors.tilt triggered now).2
  | .configure features proximityCheck => sensors.configure features proximityCheck

/-- The sensors after some uses, one after another. -/
def after (sensors : DozeSensors) (uses : List Use) : DozeSensors :=
  uses.foldl next sensors

/-- What was done last of one kind. -/
def lastOf {α : Type} (kind : Use → Option α) (uses : List Use) : Option α :=
  (uses.filterMap kind).getLast?

/-- The settings that the sensors were given last. -/
def inForce (sensors : DozeSensors) (uses : List Use) : DozeFeatures × Bool :=
  (lastOf Use.settings? uses).getD (sensors.features, sensors.proximityCheck)

/-- The display went off at a time, `before` is what was done earlier and `during` what was done
since; in its course the display was reported neither on nor off. -/
structure Dark (uses before : List Use) (opening : Int) (during : List Use) : Prop where
  split : uses = before ++ .displayOff opening :: during
  still : ∀ use ∈ during, use.isDisplay = false

/-- The display was reported on, or never, and not off since. -/
def Lit (uses : List Use) : Prop :=
  ∃ before during, (uses = during ∨ uses = before ++ .displayOn :: during) ∧
    ∀ use ∈ during, use.isDisplay = false

variable {sensors : DozeSensors} {uses before during : List Use} {opening now : Int}

@[simp]
theorem after_nil : sensors.after [] = sensors := rfl

@[simp]
theorem after_cons (use : Use) : sensors.after (use :: uses) = (sensors.next use).after uses := rfl

@[simp]
theorem after_append : sensors.after (before ++ during) = (sensors.after before).after during :=
  List.foldl_append

theorem lastOf_concat {α : Type} (kind : Use → Option α) (uses : List Use) (use : Use) :
    lastOf kind (uses ++ [use]) = (kind use).or (lastOf kind uses) := by
  unfold lastOf
  cases found : kind use <;> simp [found]

/-! ### The display -/

/-- **A history is lit or dark**: what counts is how the display was reported last. -/
theorem lit_or_dark (uses : List Use) :
    Lit uses ∨ ∃ before opening during, Dark uses before opening during := by
  induction uses using List.reverseRec with
  | nil => exact Or.inl ⟨[], [], Or.inl rfl, List.forall_mem_nil _⟩
  | append_singleton uses use ih =>
    cases shown : use.isDisplay with
    | true =>
      cases use with
      | displayOff now => exact Or.inr ⟨uses, now, [], rfl, List.forall_mem_nil _⟩
      | displayOn => exact Or.inl ⟨uses, [], Or.inr rfl, List.forall_mem_nil _⟩
      | proximity | tilt | configure => cases shown
    | false =>
      have still : ∀ during : List Use, (∀ other ∈ during, other.isDisplay = false) →
          ∀ other ∈ during ++ [use], other.isDisplay = false := by
        intro during quiet other member
        rcases List.mem_append.mp member with here | here
        · exact quiet other here
        · rw [List.mem_singleton.mp here, shown]
      rcases ih with ⟨before, during, split, quiet⟩ | ⟨before, opening, during, dark⟩
      · refine Or.inl ⟨before, during ++ [use], ?_, still during quiet⟩
        rcases split with rfl | rfl
        · exact Or.inl rfl
        · exact Or.inr (by simp)
      · refine Or.inr ⟨before, opening, during ++ [use], ?_, still during dark.still⟩
        rw [dark.split]
        simp

/-- When the display went off last is when it became dark. -/
theorem Dark.off (dark : Dark uses before opening during) :
    lastOf Use.off? uses = some opening := by
  have none : during.filterMap Use.off? = [] := by
    refine List.filterMap_eq_nil_iff.mpr fun use member => ?_
    have still := dark.still use member
    cases use <;> first | rfl | cases still
  rw [lastOf, dark.split]
  simp [Use.off?, none]

/-! ### Settings -/

/-- What a use leaves alone. -/
theorem presence_after (sensors : DozeSensors) (uses : List Use) :
    (sensors.after uses).presence = sensors.presence := by
  induction uses generalizing sensors with
  | nil => rfl
  | cons use uses ih =>
    rw [after_cons, ih]
    cases use with
    | displayOff | displayOn | configure => rfl
    | proximity sample now =>
      rw [next, proximity]
      split <;> rfl
    | tilt triggered now =>
      rw [next, tilt]
      split
      · rfl
      · split <;> rfl

/-- **The settings of the sensors are those that they were given last.** -/
theorem settings_after (sensors : DozeSensors) (uses : List Use) :
    ((sensors.after uses).features, (sensors.after uses).proximityCheck) =
      sensors.inForce uses := by
  induction uses using List.reverseRec with
  | nil => rfl
  | append_singleton uses use ih =>
    rw [after_append, after_cons, after_nil, inForce, lastOf_concat]
    cases use with
    | displayOff | displayOn => exact ih
    | configure => rfl
    | proximity sample now =>
      rw [next, proximity]
      split <;> exact ih
    | tilt triggered now =>
      rw [next, tilt]
      split
      · exact ih
      · split <;> exact ih

theorem features_after : (sensors.after uses).features = (sensors.inForce uses).1 :=
  congrArg Prod.fst (settings_after sensors uses)

theorem proximityCheck_after :
    (sensors.after uses).proximityCheck = (sensors.inForce uses).2 :=
  congrArg Prod.snd (settings_after sensors uses)

/-! ### The window of the proximity sensor -/

/-- What a window holds after a sample. -/
def ofSample (taken : ProximitySample × Int) : ProximityWindow :=
  ⟨taken.1.isNear, taken.2⟩

/-- While the display is not reported, a window stays open and holds the last sample. -/
theorem window_during (still : ∀ use ∈ during, use.isDisplay = false) :
    (sensors.after during).window =
      sensors.window.map fun window => ((lastOf Use.sample? during).map ofSample).getD window := by
  induction during using List.reverseRec with
  | nil => simp [lastOf]
  | append_singleton during use ih =>
    obtain ⟨earlier, here⟩ := List.forall_mem_append.mp still
    have shown := here use (List.mem_singleton_self use)
    specialize ih earlier
    rw [after_append, after_cons, after_nil, lastOf_concat]
    cases use with
    | displayOff | displayOn => cases shown
    | configure => exact ih
    | proximity sample now =>
      rw [next, proximity]
      cases opened : sensors.window with
      | none => simp [ih, opened]
      | some window => simp [ih, opened, ofSample, Use.sample?]
    | tilt triggered now =>
      rw [next, tilt]
      split
      · exact ih
      · split <;> exact ih

/-- Whether the proximity sensor is of use, after some uses, when the display goes off. -/
def Listens (sensors : DozeSensors) (before : List Use) : Prop :=
  sensors.presence.proximity = true ∧
    ((sensors.inForce before).1.wave = true ∨ (sensors.inForce before).1.pocket = true ∨
      (sensors.inForce before).2 = true)

theorem wantsProximity_after_iff :
    (sensors.after before).wantsProximity = true ↔ sensors.Listens before := by
  unfold wantsProximity Listens DozeFeatures.usesProximity
  rw [presence_after, features_after, proximityCheck_after]
  simp [or_assoc]

/-- **Since the display went off the window holds the last sample**, if the sensor was of use. -/
theorem window_after_dark (dark : Dark uses before opening during)
    (listens : sensors.Listens before) :
    (sensors.after uses).window =
      some (((lastOf Use.sample? during).map ofSample).getD ⟨false, opening⟩) := by
  have opened : ((sensors.after before).displayOff opening).window = some ⟨false, opening⟩ :=
    if_pos (wantsProximity_after_iff.mpr listens)
  rw [dark.split, after_append, after_cons, next, window_during dark.still, opened]
  rfl

theorem window_after_deaf (dark : Dark uses before opening during)
    (deaf : ¬ sensors.Listens before) : (sensors.after uses).window = none := by
  have closed : ((sensors.after before).displayOff opening).window = none :=
    if_neg (wantsProximity_after_iff.not.mpr deaf)
  rw [dark.split, after_append, after_cons, next, window_during dark.still, closed]
  rfl

/-! ### The window of the tilt sensor -/

/-- The times of the samples that are accepted after `since`, at which the sensor was accepted last
or its window was opened. A sample is accepted if a while has passed, whatever it says. -/
def accepted (since : Int) : List Use → List Int
  | [] => []
  | .tilt _ now :: rest =>
    if since + tiltMillis ≤ now then now :: accepted now rest else accepted since rest
  | _ :: rest => accepted since rest

/-- When the tilt sensor was accepted last, or its window was opened. -/
def lastAccepted (since : Int) (uses : List Use) : Int :=
  (accepted since uses).getLast?.getD since

/-- That is the latest of all these times. -/
theorem lastAccepted_le_iff :
    lastAccepted opening during + tiltMillis ≤ now ↔
      ∀ time ∈ opening :: accepted opening during, time + tiltMillis ≤ now := by
  have gap : (0 : Int) ≤ tiltMillis := by decide
  induction during generalizing opening with
  | nil => simp [lastAccepted, accepted]
  | cons use during ih =>
    cases use with
    | displayOff | displayOn | proximity | configure => exact ih
    | tilt triggered time =>
      by_cases late : opening + tiltMillis ≤ time
      · have same : lastAccepted opening (.tilt triggered time :: during) =
            lastAccepted time during := by
          simp [lastAccepted, accepted, late, List.getLast?_cons]
        rw [same, accepted, if_pos late]
        refine ih.trans ?_
        constructor
        · intro past
          refine List.forall_mem_cons.mpr ⟨?_, past⟩
          have := past time List.mem_cons_self
          omega
        · exact fun past => (List.forall_mem_cons.mp past).2
      · have same : accepted opening (.tilt triggered time :: during) =
            accepted opening during := if_neg late
        rw [same, lastAccepted, same]
        exact ih

/-- While the display is not reported, a window stays open and moves on to accepted samples. -/
theorem tiltAt_during (still : ∀ use ∈ during, use.isDisplay = false) :
    (sensors.after during).tiltAt =
      sensors.tiltAt.map fun since => lastAccepted since during := by
  induction during generalizing sensors with
  | nil => simp [lastAccepted, accepted]
  | cons use during ih =>
    obtain ⟨shown, later⟩ := List.forall_mem_cons.mp still
    rw [after_cons, ih later]
    cases use with
    | displayOff | displayOn => cases shown
    | configure => rfl
    | proximity sample now =>
      rw [next, proximity]
      split <;> rfl
    | tilt triggered now =>
      rw [next, tilt]
      cases opened : sensors.tiltAt with
      | none => simp [opened]
      | some since =>
        by_cases soon : now - since < tiltMillis
        · have early : ¬ since + tiltMillis ≤ now := by omega
          simp [soon, opened, lastAccepted, accepted, early]
        · have late : since + tiltMillis ≤ now := by omega
          simp [soon, lastAccepted, accepted, late, List.getLast?_cons]

/-- Whether the tilt sensor is of use, after some uses, when the display goes off. -/
def Heeds (sensors : DozeSensors) (before : List Use) : Prop :=
  sensors.presence.tilt = true ∧ (sensors.inForce before).1.tilt = true

theorem wantsTilt_after_iff : (sensors.after before).wantsTilt = true ↔ sensors.Heeds before := by
  unfold wantsTilt Heeds
  rw [presence_after, features_after]
  exact Bool.and_eq_true_iff

/-- **Since the display went off the window holds the last accepted sample**, if the sensor was of
use. -/
theorem tiltAt_after_dark (dark : Dark uses before opening during)
    (heeds : sensors.Heeds before) :
    (sensors.after uses).tiltAt = some (lastAccepted opening during) := by
  have opened : ((sensors.after before).displayOff opening).tiltAt = some opening :=
    if_pos (wantsTilt_after_iff.mpr heeds)
  rw [dark.split, after_append, after_cons, next, tiltAt_during dark.still, opened]
  rfl

theorem tiltAt_after_deaf (dark : Dark uses before opening during)
    (deaf : ¬ sensors.Heeds before) : (sensors.after uses).tiltAt = none := by
  have closed : ((sensors.after before).displayOff opening).tiltAt = none :=
    if_neg (wantsTilt_after_iff.not.mpr deaf)
  rw [dark.split, after_append, after_cons, next, tiltAt_during dark.still, closed]
  rfl

/-! ### Closed windows -/

/-- **With the display on no window is open.** -/
theorem closed_after_lit (lit : Lit uses) (window : sensors.window = none)
    (tiltAt : sensors.tiltAt = none) :
    (sensors.after uses).window = none ∧ (sensors.after uses).tiltAt = none := by
  obtain ⟨before, during, split, still⟩ := lit
  have closed : ∀ first : DozeSensors, first.window = none → first.tiltAt = none →
      (first.after during).window = none ∧ (first.after during).tiltAt = none := by
    intro first window tiltAt
    rw [window_during still, tiltAt_during still, window, tiltAt]
    exact ⟨rfl, rfl⟩
  rcases split with rfl | rfl
  · exact closed sensors window tiltAt
  · rw [after_append, after_cons]
    exact closed _ rfl rfl

end TouchDispatch.DozeSensors
