/-
**Dialogues with the device.**

A dialogue is a computation that asks the device for things on its way. It is a value, so that
what it does can be studied under every behaviour of the device:

* `Dialogue`: a result, or a request and what to do with each answer;
* `Host`: a behaviour of the device, with a state of its own;
* `Dialogue.run`: the result of a dialogue with a host, and the state of the host afterwards;
* `Dialogue.transcript`: the requests of a dialogue with a host and the answers to them.
-/

import TouchDispatch.Device.Request

namespace TouchDispatch

/-- A computation that makes requests to the device. -/
inductive Dialogue (α : Type) : Type where
  | pure (result : α)
  | ask (request : Request) (next : request.Answer → Dialogue α)

/-- A behaviour of the device: the answer to each request, and the state it leaves behind. -/
structure Host (σ : Type) where
  answer : (request : Request) → σ → request.Answer × σ

/-- A request together with its answer. -/
structure Exchange where
  request : Request
  answer : request.Answer

namespace Dialogue

variable {α β σ : Type}

/-- One dialogue after another. -/
def bind : Dialogue α → (α → Dialogue β) → Dialogue β
  | pure result, next => next result
  | ask request reply, next => ask request fun answer => (reply answer).bind next

instance : Monad Dialogue where
  pure := pure
  bind := bind

/-- What the clock shows. -/
def now : Dialogue Int :=
  ask .now pure

/-- Whether music is playing. -/
def musicActive : Dialogue Bool :=
  ask .musicActive pure

/-- Whether the system has come up. -/
def systemReady : Dialogue Bool :=
  ask .systemReady pure

/-- The outcome of looking for the rear camera. -/
def findCamera : Dialogue CameraSearch :=
  ask .findCamera pure

/-- Tells the device to do something. The answer says whether it worked. -/
def perform (call : Call) : Dialogue Bool :=
  ask (.perform call) pure

/-- The result of a dialogue with a host, and the state that the host is left in. -/
def run (host : Host σ) : Dialogue α → σ → α × σ
  | pure result, state => (result, state)
  | ask request next, state =>
    let reply := host.answer request state
    (next reply.1).run host reply.2

/-- The requests of a dialogue with a host, in order, with their answers. -/
def transcript (host : Host σ) : Dialogue α → σ → List Exchange
  | pure _, _ => []
  | ask request next, state =>
    let reply := host.answer request state
    ⟨request, reply.1⟩ :: (next reply.1).transcript host reply.2

@[simp]
theorem run_pure (host : Host σ) (result : α) (state : σ) :
    (Pure.pure result : Dialogue α).run host state = (result, state) := rfl

@[simp]
theorem run_bind (host : Host σ) (first : Dialogue α) (next : α → Dialogue β) (state : σ) :
    (first >>= next).run host state =
      (next (first.run host state).1).run host (first.run host state).2 := by
  show (first.bind next).run host state = _
  induction first generalizing state with
  | pure result => rfl
  | ask request reply ih => exact ih _ _

@[simp]
theorem transcript_pure (host : Host σ) (result : α) (state : σ) :
    (Pure.pure result : Dialogue α).transcript host state = [] := rfl

@[simp]
theorem transcript_bind (host : Host σ) (first : Dialogue α) (next : α → Dialogue β)
    (state : σ) :
    (first >>= next).transcript host state =
      first.transcript host state ++
        (next (first.run host state).1).transcript host (first.run host state).2 := by
  show (first.bind next).transcript host state = _
  induction first generalizing state with
  | pure result => rfl
  | ask request reply ih => exact congrArg (List.cons _) (ih _ _)

end Dialogue

end TouchDispatch
