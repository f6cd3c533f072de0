/-
**The torch is on exactly if the last word on it was that it is on.**

The daemon cannot ask for the state of the torch. It goes by what it was told of the torch of the
rear camera, and by those of its own requests that succeeded:

* `firstCamera`: the rear camera, which is the first that a search found;
* `torchStates`: the states of its torch that were reported or brought about, in order. What was
  reported before the rear camera was found does not count;
* `torchState`: the last of them;
* `Lit`: what one step makes of the torch;
* `Followed`, `followed_step`: what the daemon knows is what the journal says, and every step keeps
  that;
* `torch_followed`: **the torch is followed without fail, the rear camera is searched for until it
  is found, and every request is to the other state.**
-/

import TouchDispatch.Device.Bench
import TouchDispatch.Proofs.Daemon.Aftermath
import TouchDispatch.Proofs.Daemon.Toggle

namespace TouchDispatch

open Dialogue

/-! ### What the journal says -/

namespace Exchange

/-- The rear camera, where a search found it. -/
def camera? : Exchange → Option String
  | ⟨.findCamera, search⟩ => search.camera?
  | _ => none

/-- The state that the torch was put in, where a request succeeded. -/
def torchState? : Exchange → Option Bool
  | ⟨.perform (.torch _ on), done⟩ => if done then some on else none
  | _ => none

end Exchange

/-- The first rear camera that was found. -/
def firstCamera (exchanges : List Exchange) : Option String :=
  exchanges.findSome? Exchange.camera?

/-- How often the rear camera was searched for. -/
def searches (exchanges : List Exchange) : Nat :=
  (exchanges.map Exchange.request).count .findCamera

/-- The state that a step reports of the torch of a camera. -/
def Step.torchState? (camera : Option String) (step : Step) : Option Bool :=
  step.torch?.bind fun report => if camera = some report.1 then some report.2 else none

/-- The states of the torch that were reported or brought about in a step, when the rear camera was
known before, or was not. -/
def Entry.torchStates (camera : Option String) (entry : Entry) : List Bool :=
  (entry.step.torchState? camera).toList ++ entry.exchanges.filterMap Exchange.torchState?

/-- The states of the torch that were reported or brought about in the course of a journal. -/
def torchStates (camera : Option String) : List Entry → List Bool
  | [] => []
  | entry :: rest =>
    entry.torchStates camera ++ torchStates (camera.or (firstCamera entry.exchanges)) rest

/-- The state of the torch after a journal; it is off at first. -/
def torchState (journal : List Entry) : Bool :=
  (torchStates none journal).getLast?.getD false

theorem firstCamera_append (before after : List Exchange) :
    firstCamera (before ++ after) = (firstCamera before).or (firstCamera after) :=
  List.findSome?_append

theorem searches_append (before after : List Exchange) :
    searches (before ++ after) = searches before + searches after := by
  unfold searches
  rw [List.map_append, List.count_append]

theorem torchStates_concat (camera : Option String) (journal : List Entry) (entry : Entry) :
    torchStates camera (journal ++ [entry]) =
      torchStates camera journal ++
        entry.torchStates (camera.or (firstCamera (exchangesOf journal))) := by
  induction journal generalizing camera with
  | nil =>
    rw [exchangesOf_nil, firstCamera, List.findSome?_nil, Option.or_none]
    exact List.append_nil _
  | cons first rest ih =>
    change first.torchStates camera ++ torchStates _ (rest ++ [entry]) =
      (first.torchStates camera ++ torchStates _ rest) ++ _
    rw [ih, List.append_assoc, Option.or_assoc, ← firstCamera_append]
    rfl

theorem torchState_concat (journal : List Entry) (entry : Entry) :
    torchState (journal ++ [entry]) =
      (entry.torchStates (firstCamera (exchangesOf journal))).getLast?.getD
        (torchState journal) := by
  unfold torchState
  rw [torchStates_concat, Option.none_or, List.getLast?_append, Option.getD_or]

/-! ### What one step makes of the torch -/

/-- What one step makes of the torch. -/
structure Lit (core : Core) (entry : Entry) (next : Core) : Prop where
  camera : next.lamp.camera = core.lamp.camera.or (firstCamera entry.exchanges)
  on : next.lamp.on = (entry.torchStates core.lamp.camera).getLast?.getD core.lamp.on
  shown : next.status.torchOn =
    (entry.torchStates core.lamp.camera).getLast?.getD core.status.torchOn
  searched : searches entry.exchanges =
    if entry.step.isTorch && core.lamp.camera.isNone then 1 else 0
  /-- Each request is to the other state of the torch of the rear camera. -/
  requests : ∀ request ∈ asked Request.torch? entry.exchanges,
    next.lamp.camera = some request.1 ∧ request.2 = !core.lamp.on

section Steps

variable {core next : Core} {exchanges : List Exchange} {entry : Entry}

/-- What does not concern the torch says nothing of it. -/
theorem torch_unmentioned (silent : ∀ exchange ∈ exchanges, exchange.request.part ≠ .torch) :
    firstCamera exchanges = none ∧ exchanges.filterMap Exchange.torchState? = [] ∧
      searches exchanges = 0 ∧ asked Request.torch? exchanges = [] := by
  refine ⟨?_, ?_, ?_, ?_⟩
  · refine List.findSome?_eq_none_iff.mpr fun exchange member => ?_
    unfold Exchange.camera?
    split
    · exact absurd rfl (silent _ member)
    · rfl
  · refine List.filterMap_eq_nil_iff.mpr fun exchange member => ?_
    unfold Exchange.torchState?
    split
    · exact absurd rfl (silent _ member)
    · rfl
  · refine List.count_eq_zero.mpr fun member => ?_
    obtain ⟨exchange, member, search⟩ := List.mem_map.mp member
    refine silent exchange member ?_
    rw [search]
    rfl
  · exact asked_eq_nil fun exchange member => Request.torch?_eq_none (silent exchange member)

/-- A search finds the rear camera, or nothing, and is made only when it is not known. -/
theorem Sought.found {camera : Option String} (sought : Sought core exchanges camera) :
    camera = core.lamp.camera.or (firstCamera exchanges) ∧
      exchanges.filterMap Exchange.torchState? = [] ∧
      searches exchanges = (if core.lamp.camera.isNone then 1 else 0) ∧
      asked Request.torch? exchanges = [] := by
  cases sought with
  | known lamp =>
    rw [lamp]
    exact ⟨rfl, rfl, rfl, rfl⟩
  | searched search lamp =>
    rw [lamp]
    refine ⟨?_, rfl, rfl, rfl⟩
    cases search with
    | failed | missing | found => rfl

/-- What comes after the search decides about the torch. -/
theorem Sought.lit {camera : Option String} {search rest : List Exchange}
    (sought : Sought core search camera) (found : next.lamp.camera = camera)
    (unfound : firstCamera rest = none) (unsearched : searches rest = 0)
    (on : next.lamp.on = (rest.filterMap Exchange.torchState?).getLast?.getD core.lamp.on)
    (shown : next.status.torchOn =
      (rest.filterMap Exchange.torchState?).getLast?.getD core.status.torchOn)
    (requests : ∀ request ∈ asked Request.torch? rest,
      camera = some request.1 ∧ request.2 = !core.lamp.on) :
    Lit core ⟨.dispatch (.run .torch), search ++ rest⟩ next := by
  obtain ⟨known, unlit, count, unasked⟩ := sought.found
  have states : Entry.torchStates core.lamp.camera ⟨.dispatch (.run .torch), search ++ rest⟩ =
      rest.filterMap Exchange.torchState? := by
    change (search ++ rest).filterMap Exchange.torchState? = _
    rw [List.filterMap_append, unlit]
    rfl
  constructor
  case camera => rw [firstCamera_append, unfound, Option.or_none, found, known]
  case on => rw [states, on]
  case shown => rw [states, shown]
  case searched =>
    rw [searches_append, count, unsearched]
    rfl
  case requests =>
    intro request member
    rw [asked_append, unasked] at member
    rw [found]
    exact requests request member

/-- **The torch gesture searches for the rear camera first**, and asks at most for the other state
then. -/
theorem Toggling.lit (toggling : Toggling core exchanges next) (time : Int) :
    Lit core ⟨.dispatch (.run .torch), exchanges ++ [⟨.now, time⟩]⟩
      (next.withStatus (·.recordGesture (.run .torch) time)) := by
  cases toggling with
  | missing sought => exact sought.lit sought.missing rfl rfl rfl rfl nofun
  | dropped now sought =>
    rw [List.append_assoc]
    exact sought.lit rfl rfl rfl rfl rfl nofun
  | @switched search aside camera now hold done sought late beside millis =>
    obtain ⟨unfound, unlit, unsearched, unasked⟩ := torch_unmentioned fun exchange member =>
      (beside exchange member).ne nofun nofun
    rw [List.append_assoc, List.cons_append, List.append_assoc]
    have states : (⟨.now, now⟩ :: (aside ++ ([⟨.perform (.torch camera (!core.lamp.on)), done⟩] ++
        [⟨.now, time⟩]))).filterMap Exchange.torchState? =
          (if done then [!core.lamp.on] else []) := by
      rw [← List.singleton_append, List.filterMap_append, List.filterMap_append, unlit]
      cases done with
      | true => rfl
      | false => rfl
    refine sought.lit rfl ?_ ?_ ?_ ?_ ?_
    · rw [← List.singleton_append, firstCamera_append, firstCamera_append, unfound]
      rfl
    · rw [← List.singleton_append, searches_append, searches_append, unsearched]
      rfl
    · rw [states]
      cases done with
      | true => rfl
      | false => rfl
    · rw [states]
      cases done with
      | true => rfl
      | false => rfl
    · intro request member
      rw [← List.singleton_append, asked_append, asked_append, unasked] at member
      obtain rfl := List.mem_singleton.mp member
      exact ⟨rfl, rfl⟩

/-- A report counts if it is on the torch of the rear camera. -/
theorem lit_torchReported {step : Step} {camera : String} {on : Bool}
    (torch : step.torch? = some (camera, on)) :
    Lit core ⟨step, []⟩ (core.torchReported camera on) := by
  have other : step.isTorch = false := by
    by_contra same
    rw [Step.eq_of_isTorch (Bool.of_not_eq_false same)] at torch
    cases torch
  have states : Entry.torchStates core.lamp.camera ⟨step, []⟩ =
      if core.lamp.camera = some camera then [on] else [] := by
    unfold Entry.torchStates Step.torchState?
    rw [torch]
    change (if core.lamp.camera = some camera then some on else none).toList ++ [] = _
    split
    · rfl
    · rfl
  unfold Core.torchReported
  constructor
  case camera =>
    split
    · exact (Option.or_none).symm
    · exact (Option.or_none).symm
  case on =>
    rw [states]
    split
    · rfl
    · rfl
  case shown =>
    rw [states]
    split
    · rfl
    · rfl
  case searched =>
    rw [other]
    rfl
  case requests => nofun

/-- **What one step makes of the torch.** -/
theorem lit_step (ends : (core.step entry.step).Ends entry.exchanges next) :
    Lit core entry next := by
  obtain ⟨step, exchanges⟩ := entry
  by_cases torch : step.isTorch = true
  · obtain rfl := Step.eq_of_isTorch torch
    obtain ⟨before, toggled, time, toggling, rfl, rfl⟩ := ends_torchGesture ends
    exact toggling.lit time
  · cases reported : step.torch? with
    | some report =>
      obtain ⟨rfl, rfl⟩ := ends_torchReport reported ends
      exact lit_torchReported reported
    | none =>
      have other : step.part ≠ .torch := fun same => torch (by rw [Step.part_eq_torch same]; rfl)
      have unlit : step.isTorch = false := Bool.of_not_eq_true torch
      obtain ⟨own, frame⟩ := Core.step_frame core step exchanges next ends
      obtain ⟨unfound, unswitched, unsearched, unasked⟩ :=
        torch_unmentioned fun exchange member => (own exchange member).ne other nofun
      obtain ⟨on, shown⟩ := lamp_kept unlit reported ends
      have states : Entry.torchStates core.lamp.camera ⟨step, exchanges⟩ = [] := by
        unfold Entry.torchStates Step.torchState?
        rw [reported, unswitched]
        rfl
      constructor
      case camera =>
        rw [unfound, Option.or_none]
        exact congrArg Arming.camera (frame.arming other)
      case on =>
        rw [states]
        exact on
      case shown =>
        rw [states]
        exact shown
      case searched =>
        rw [unsearched, unlit]
        rfl
      case requests =>
        rw [unasked]
        exact List.forall_mem_nil _

end Steps

/-! ### Runs -/

/-- What the daemon knows of the torch is what the journal says. -/
structure Followed (journal : List Entry) (core : Core) : Prop where
  camera : core.lamp.camera = firstCamera (exchangesOf journal)
  on : core.lamp.on = torchState journal
  shown : core.status.torchOn = torchState journal
  requests : ∀ request ∈ asked Request.torch? (exchangesOf journal),
    core.lamp.camera = some request.1

/-- **Every step keeps it.** -/
theorem followed_step {journal : List Entry} {core next : Core} {entry : Entry}
    (followed : Followed journal core)
    (ends : (core.step entry.step).Ends entry.exchanges next) :
    Followed (journal ++ [entry]) next := by
  have lit := lit_step ends
  constructor
  case camera =>
    rw [exchangesOf_append, exchangesOf_singleton, firstCamera_append, ← followed.camera]
    exact lit.camera
  case on =>
    rw [torchState_concat, ← followed.camera, ← followed.on]
    exact lit.on
  case shown =>
    rw [torchState_concat, ← followed.camera, ← followed.shown]
    exact lit.shown
  case requests =>
    intro request member
    rw [exchangesOf_append, exchangesOf_singleton, asked_append] at member
    rcases List.mem_append.mp member with before | now
    · rw [lit.camera, followed.requests request before]
      rfl
    · exact (lit.requests request now).1

/-- Every run keeps it. -/
theorem followed_after {σ : Type} (host : Host σ) (device : σ) (disk : Disk)
    (store : Settings.Store) (presence : Presence) (switches : Option Switches)
    (steps : List Step) :
    let first := Session.opening host device disk store presence switches
    Followed (first.journal host steps) (first.after host steps).core := by
  intro first
  refine Session.keeps host Followed first ?_ (fun _ _ _ _ => followed_step) steps
  rw [Session.opening_core]
  exact ⟨rfl, rfl, rfl, nofun⟩

/-- **The torch is followed without fail**: the daemon takes it for on, and shows it, exactly if the
last report on it, or the last request that succeeded, was that it is on. **Every torch gesture
searches for the rear camera until a search has found it**, and nothing else does. **Every request
is to the torch of the camera that was found first**, and to the other state than the last one. -/
theorem torch_followed {σ : Type} (host : Host σ) (device : σ) (disk : Disk)
    (store : Settings.Store) (presence : Presence) (switches : Option Switches)
    (steps : List Step) :
    let first := Session.opening host device disk store presence switches
    let session := first.after host steps
    let history := first.journal host steps
    session.core.lamp.on = torchState history ∧
      session.core.status.torchOn = torchState history ∧
      (∀ request ∈ asked Request.torch? (exchangesOf history),
        firstCamera (exchangesOf history) = some request.1) ∧
      ∀ step, let exchanges := (session.core.step step).transcript host session.device
        searches exchanges =
            (if step.isTorch && (firstCamera (exchangesOf history)).isNone then 1 else 0) ∧
          ∀ request ∈ asked Request.torch? exchanges, request.2 = !torchState history := by
  intro first session history
  have followed : Followed history session.core :=
    followed_after host device disk store presence switches steps
  refine ⟨followed.on, followed.shown, fun request member => ?_, ?_⟩
  · rw [← followed.camera]
    exact followed.requests request member
  · intro step exchanges
    have lit : Lit session.core ⟨step, exchanges⟩ _ := lit_step (ends_run host _ session.device)
    rw [← followed.camera, ← followed.on]
    exact ⟨lit.searched, fun request member => (lit.requests request member).2⟩

/-- On a bench, what is reported before the camera is found does not count, nor what is reported of
another camera. The first gesture switches the torch on, as far as is known. When somebody else has
switched it off, the next gesture switches it on again. -/
theorem torch_followed_on_bench :
    let first := Session.opening Bench.host { clock := 0, mediaMillis := 2000 } {} {} {} none
    let steps : List Step :=
      [.report (.torchMode "0" true), .dispatch (.run .torch), .report (.torchMode "1" false),
        .dispatch (.run (.media .playPause)), .report (.torchGone "0"), .dispatch (.run .torch)]
    let history := first.journal Bench.host steps
    firstCamera (exchangesOf history) = some "0" ∧
      asked Request.torch? (exchangesOf history) = [("0", true), ("0", true)] ∧
      torchStates none history = [true, false, true] ∧
      (first.after Bench.host steps).core.lamp.on = true :=
  ⟨by decide, by decide, by decide, (torch_followed Bench.host _ {} {} {} none _).1⟩

end TouchDispatch
