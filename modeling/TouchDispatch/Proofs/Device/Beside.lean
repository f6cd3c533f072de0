/-
**Two dialogues side by side.**

The failure of most calls is passed over, so a dialogue goes on in the same way on two devices on
which different calls fail:

* `Request.decides`: whether the answer to a request decides how a dialogue goes on;
* `Dialogue.Beside`: two dialogues make the same requests as long as they get the same answers to
  those that decide, and come to related results;
* `Beside.bind`, `Beside.ite` and so on: one rule for each way to build a dialogue;
* `Host.Agree`: two devices give the same answers to the requests of some kind;
* `run_agree`: **if these are all that decide, the dialogues make the same requests on the two, one
  by one**;
* `run_same`: with one device they exchange the same altogether;
* `Bench.Akin`, `agree_of_akin`: two benches that agree, though different calls fail on them.
-/

import Mathlib.Data.List.Forall2
import TouchDispatch.Device.Bench
import TouchDispatch.Proofs.Device.Course

namespace TouchDispatch

/-- Whether the answer to a request decides how things go on: an answer to a question does, and so
does whether the torch was switched. The failure of any other call is passed over. -/
def Request.decides : Request → Bool
  | .now | .musicActive | .systemReady | .findCamera | .perform (.torch ..) => true
  | .perform _ => false

namespace Dialogue

variable {α β γ δ σ τ : Type}

/-- Two dialogues that make the same requests, all of them allowed, as long as they get the same
answers to those that decide, and come to related results. -/
inductive Beside (allowed : Request → Prop) (related : α → β → Prop) :
    Dialogue α → Dialogue β → Prop
  | pure {one : α} {two : β} (here : related one two) :
      Beside allowed related (.pure one) (.pure two)
  | ask {request : Request} {next : request.Answer → Dialogue α}
      {other : request.Answer → Dialogue β} (here : allowed request)
      (rest : ∀ first second : request.Answer, (request.decides = true → first = second) →
        Beside allowed related (next first) (other second)) :
      Beside allowed related (.ask request next) (.ask request other)

namespace Beside

variable {allowed : Request → Prop} {related : α → β → Prop}

/-! ### Rules -/

/-- **Two dialogues, and what follows on them.** -/
theorem bind {between : γ → δ → Prop} {one : Dialogue γ} {two : Dialogue δ} {next : γ → Dialogue α}
    {other : δ → Dialogue β} (left : Beside allowed between one two)
    (right : ∀ first second, between first second → Beside allowed related (next first)
      (other second)) : Beside allowed related (one >>= next) (two >>= other) := by
  induction left with
  | pure here => exact right _ _ here
  | ask here _ ih => exact .ask here ih

theorem map {one two : Dialogue γ} {make : γ → α} (same : Beside allowed Eq one two) :
    Beside allowed Eq (one >>= fun value => return make value)
      (two >>= fun value => return make value) := by
  refine .bind same ?_
  rintro value _ rfl
  exact .pure rfl

theorem ite {condition : Prop} [Decidable condition] {yes no : Dialogue α}
    {yes' no' : Dialogue β} (left : Beside allowed related yes yes')
    (right : Beside allowed related no no') :
    Beside allowed related (if condition then yes else no) (if condition then yes' else no') := by
  split
  · exact left
  · exact right

/-- A request that decides gets the same answer. -/
theorem decided {request : Request} (here : allowed request) (decides : request.decides = true) :
    Beside allowed Eq (Dialogue.ask request Dialogue.pure) (Dialogue.ask request Dialogue.pure) :=
  .ask here fun _ _ same => .pure (same decides)

theorem now (here : allowed .now) : Beside allowed Eq Dialogue.now Dialogue.now :=
  decided here rfl

theorem musicActive (here : allowed .musicActive) :
    Beside allowed Eq Dialogue.musicActive Dialogue.musicActive :=
  decided here rfl

theorem systemReady (here : allowed .systemReady) :
    Beside allowed Eq Dialogue.systemReady Dialogue.systemReady :=
  decided here rfl

theorem findCamera (here : allowed .findCamera) :
    Beside allowed Eq Dialogue.findCamera Dialogue.findCamera :=
  decided here rfl

theorem torch {camera : String} {on : Bool} (here : allowed (.perform (.torch camera on))) :
    Beside allowed Eq (Dialogue.perform (.torch camera on)) (Dialogue.perform (.torch camera on)) :=
  decided here rfl

/-- Whether a call worked may differ. -/
theorem perform {call : Call} (here : allowed (.perform call)) :
    Beside allowed (fun _ _ => True) (Dialogue.perform call) (Dialogue.perform call) :=
  .ask here fun _ _ _ => .pure trivial

/-! ### What follows for each of the two -/

/-- What dialogues side by side are allowed is all that the first of them requests. -/
theorem ensures {one : Dialogue α} {two : Dialogue β} (beside : Beside allowed related one two) :
    one.Ensures allowed fun result => ∃ other, related result other := by
  intro exchanges result ends
  induction beside generalizing exchanges with
  | pure here =>
    obtain ⟨rfl, rfl⟩ := ends_pure_iff.mp ends
    exact ⟨fun exchange member => absurd member List.not_mem_nil, _, here⟩
  | ask here _ ih =>
    cases ends with
    | ask _ _ answer rest =>
      obtain ⟨later, final⟩ := ih answer answer (fun _ => rfl) _ rest
      exact ⟨List.forall_mem_cons.mpr ⟨here, later⟩, final⟩

end Beside

end Dialogue

/-! ### Two devices -/

/-- Two devices in states that are alike give the same answers to the requests of some kind, and
stay alike. -/
def Host.Agree {σ τ : Type} (kind : Request → Prop) (like : σ → τ → Prop) (host : Host σ)
    (other : Host τ) : Prop :=
  ∀ request device counterpart, like device counterpart →
    (kind request → (host.answer request device).1 = (other.answer request counterpart).1) ∧
    like (host.answer request device).2 (other.answer request counterpart).2

/-- Two devices that agree on some requests agree on fewer. -/
theorem Host.Agree.imp {σ τ : Type} {kind fewer : Request → Prop} {like : σ → τ → Prop}
    {host : Host σ} {other : Host τ} (agree : host.Agree kind like other)
    (among : ∀ request, fewer request → kind request) : host.Agree fewer like other := by
  intro request device counterpart alike
  obtain ⟨same, later⟩ := agree request device counterpart alike
  exact ⟨fun few => same (among request few), later⟩

/-- Two exchanges of the same request, with the same answer if that decides. -/
inductive Exchange.Like : Exchange → Exchange → Prop
  | mk {request : Request} {first second : request.Answer}
      (same : request.decides = true → first = second) : Like ⟨request, first⟩ ⟨request, second⟩

namespace Dialogue.Beside

variable {α β σ τ : Type} {allowed : Request → Prop} {related : α → β → Prop} {one : Dialogue α}
  {two : Dialogue β}

/-- **On two devices that agree on all that decides, dialogues side by side make the same requests,
one by one.** -/
theorem run_agree (beside : Beside allowed related one two) {kind : Request → Prop}
    (decisive : ∀ request, allowed request → request.decides = true → kind request)
    {like : σ → τ → Prop} {host : Host σ} {other : Host τ} (agree : host.Agree kind like other)
    {device : σ} {counterpart : τ} (alike : like device counterpart) :
    related (one.run host device).1 (two.run other counterpart).1 ∧
      like (one.run host device).2 (two.run other counterpart).2 ∧
      List.Forall₂ Exchange.Like (one.transcript host device)
        (two.transcript other counterpart) := by
  induction beside generalizing device counterpart with
  | pure here => exact ⟨here, alike, .nil⟩
  | @ask request _ _ here _ ih =>
    obtain ⟨agreed, later⟩ := agree request device counterpart alike
    have same := fun decides => agreed (decisive request here decides)
    obtain ⟨results, devices, rest⟩ := ih _ _ same later
    exact ⟨results, devices, .cons (.mk same) rest⟩

/-- **On one device, dialogues side by side exchange the same.** -/
theorem run_same (beside : Beside allowed related one two) (host : Host σ) (device : σ) :
    related (one.run host device).1 (two.run host device).1 ∧
      one.transcript host device = two.transcript host device := by
  induction beside generalizing device with
  | pure here => exact ⟨here, rfl⟩
  | @ask request _ _ _ _ ih =>
    obtain ⟨results, rest⟩ := ih _ _ (fun _ => rfl) (host.answer request device).2
    exact ⟨results, congrArg (List.cons _) rest⟩

end Dialogue.Beside

/-! ### Exchanges that are alike -/

/-- The requests of some exchanges, in order. -/
def requests (exchanges : List Exchange) : List Request :=
  exchanges.map Exchange.request

theorem requests_congr {exchanges others : List Exchange}
    (like : List.Forall₂ Exchange.Like exchanges others) :
    requests exchanges = requests others := by
  induction like with
  | nil => rfl
  | cons head _ ih =>
    cases head
    exact congrArg (List.cons _) ih

/-! ### Two benches -/

namespace Bench

/-- Two benches that are set up alike but for the calls that fail. Looking for the camera and
switching the torch fails on both or on neither. -/
structure Akin (one two : Bench) : Prop where
  clock : one.clock = two.clock
  camera : one.camera = two.camera
  musicActive : one.musicActive = two.musicActive
  systemReady : one.systemReady = two.systemReady
  mediaMillis : one.mediaMillis = two.mediaMillis
  search : one.failing.contains .findCamera = two.failing.contains .findCamera
  torch : one.failing.contains .torch = two.failing.contains .torch

/-- **Two such benches agree on what decides.** -/
theorem agree_of_akin : host.Agree (·.decides = true) Akin host := by
  intro request one two akin
  cases request with
  | now => exact ⟨fun _ => akin.clock, akin⟩
  | musicActive => exact ⟨fun _ => akin.musicActive, akin⟩
  | systemReady => exact ⟨fun _ => akin.systemReady, akin⟩
  | findCamera =>
    refine ⟨fun _ => ?_, akin.clock, akin.camera, akin.musicActive, akin.systemReady,
      akin.mediaMillis, akin.search, akin.torch⟩
    show (if one.failing.contains .findCamera then CameraSearch.failed else _) =
      if two.failing.contains .findCamera then CameraSearch.failed else _
    rw [akin.search, akin.camera]
  | perform call =>
    refine ⟨fun decides => ?_, ?_, akin.camera, akin.musicActive, akin.systemReady,
      akin.mediaMillis, akin.search, akin.torch⟩
    · cases call with
      | torch => exact congrArg (!·) akin.torch
      | _ => cases decides
    · show one.clockAfter call = two.clockAfter call
      unfold clockAfter
      rw [akin.clock, akin.mediaMillis]

end Bench

end TouchDispatch
