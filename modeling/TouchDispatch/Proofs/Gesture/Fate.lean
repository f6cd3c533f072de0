/-
**What becomes of the gestures that are put into the slot.**

* `Use`, `Yield`: what is done with a slot, and what comes of it;
* `fates`: the orders that are put in, each with its fate, which what follows decides: it is taken
  out, superseded by the next order, or still there;
* `ledger_eq`: the fates of all orders are settled one by one, and at most the last one is open;
* `Accounted`, `orders_accounted`: **no order is lost, handed out twice or out of turn.**
-/

import TouchDispatch.Gesture.Slot

namespace TouchDispatch.Slot

/-! ### Runs -/

/-- Something that is done with a slot. -/
inductive Use where
  | submit (order : Order)
  | tryTake
  | take
  | close

/-- What comes of it. -/
inductive Yield where
  /-- An order was put in, and may have superseded another. -/
  | superseded (order : Option Order)
  /-- What there was, if anything, was taken out. -/
  | tryTaken (order : Option Order)
  | taken (taken : Taken)
  | closed

namespace Yield

/-- The order that is handed out. -/
def handed? : Yield → Option Order
  | tryTaken order => order
  | taken (.order order) => some order
  | superseded _ | taken _ | closed => none

/-- The answer to whoever put an order in. -/
def displaced? : Yield → Option (Option Order)
  | superseded order => some order
  | tryTaken _ | taken _ | closed => none

end Yield

/-- What comes of a use, and the slot after it. -/
def use (slot : Slot) : Use → Yield × Slot
  | .submit order =>
    let (old, slot) := slot.submit order
    (.superseded old, slot)
  | .tryTake =>
    let (order, slot) := slot.tryTake
    (.tryTaken order, slot)
  | .take =>
    let (taken, slot) := slot.take
    (.taken taken, slot)
  | .close => (.closed, slot.close)

/-- What comes of uses, one after another. -/
def yields (slot : Slot) : List Use → List Yield
  | [] => []
  | use :: rest => (slot.use use).1 :: (slot.use use).2.yields rest

/-- The slot after uses. -/
def after (slot : Slot) : List Use → Slot
  | [] => slot
  | use :: rest => (slot.use use).2.after rest

/-- The orders that are put in. -/
def submissions (uses : List Use) : List Order :=
  uses.filterMap fun
    | .submit order => some order
    | .tryTake | .take | .close => none

/-! ### Fates -/

/-- What becomes of an order. -/
inductive Fate where
  | taken
  | superseded
  | pending
deriving DecidableEq

/-- What becomes of an order that waits: that is decided by the first of the following uses, unless
it is a close. -/
def fate : List Use → Fate
  | [] => .pending
  | .submit _ :: _ => .superseded
  | .tryTake :: _ | .take :: _ => .taken
  | .close :: rest => fate rest

/-- The orders that are put in, each with its fate. -/
def fates : List Use → List (Order × Fate)
  | [] => []
  | .submit order :: rest => (order, fate rest) :: fates rest
  | .tryTake :: rest | .take :: rest | .close :: rest => fates rest

/-- The orders among them that are taken out. -/
def takenOf (entries : List (Order × Fate)) : List Order :=
  (entries.filter fun entry => entry.2 = .taken).map Prod.fst

/-- An order, if it was superseded. -/
def superseded? (entry : Order × Fate) : Option Order :=
  if entry.2 = .superseded then some entry.1 else none

theorem fates_map_fst (uses : List Use) : (fates uses).map Prod.fst = submissions uses := by
  induction uses with
  | nil => rfl
  | cons use rest ih =>
    cases use with
    | submit order => exact congrArg (List.cons order) ih
    | tryTake | take | close => exact ih

/-- The same with the order that waits in the slot. -/
def ledger (slot : Slot) (uses : List Use) : List (Order × Fate) :=
  (slot.pending.map fun order => (order, fate uses)).toList ++ fates uses

/-- The order whose fate a use settles. -/
def settled (slot : Slot) : Use → List (Order × Fate)
  | .submit _ => (slot.pending.map fun order => (order, Fate.superseded)).toList
  | .tryTake | .take => (slot.pending.map fun order => (order, Fate.taken)).toList
  | .close => []

/-- The orders whose fates uses settle, one after another. -/
def settledAll (slot : Slot) : List Use → List (Order × Fate)
  | [] => []
  | use :: rest => slot.settled use ++ (slot.use use).2.settledAll rest

theorem use_take (slot : Slot) :
    slot.use .take = (.taken slot.take.1, { slot with pending := none }) := by
  obtain ⟨pending, closed⟩ := slot
  cases pending with
  | none => rfl
  | some order => rfl

theorem ledger_cons (slot : Slot) (use : Use) (rest : List Use) :
    slot.ledger (use :: rest) = slot.settled use ++ (slot.use use).2.ledger rest := by
  cases use with
  | submit order => rfl
  | tryTake => rfl
  | take =>
    rw [use_take]
    rfl
  | close => rfl

/-- **All fates but at most the last are settled, and that is the one of the order that waits.** -/
theorem ledger_eq (slot : Slot) (uses : List Use) :
    slot.ledger uses = slot.settledAll uses ++
      ((slot.after uses).pending.map fun order => (order, Fate.pending)).toList := by
  induction uses generalizing slot with
  | nil => exact List.append_nil _
  | cons use rest ih =>
    rw [ledger_cons, ih, settledAll, after, List.append_assoc]

theorem settled_ne_pending (slot : Slot) (uses : List Use) :
    ∀ entry ∈ slot.settledAll uses, entry.2 ≠ .pending := by
  induction uses generalizing slot with
  | nil => exact List.forall_mem_nil _
  | cons use rest ih =>
    refine List.forall_mem_append.mpr ⟨fun entry settled => ?_, ih _⟩
    cases use <;> cases waits : slot.pending <;> simp_all [Slot.settled]

/-! ### What is handed out, and what is given back -/

theorem handed_use (slot : Slot) (use : Use) :
    (slot.use use).1.handed?.toList = takenOf (slot.settled use) := by
  obtain ⟨pending, closed⟩ := slot
  cases use <;> cases pending <;> cases closed <;> rfl

/-- **The orders that are handed out are those whose fate it is to be taken, in their order.** -/
theorem handed_eq (slot : Slot) (uses : List Use) :
    (slot.yields uses).filterMap Yield.handed? = takenOf (slot.settledAll uses) := by
  induction uses generalizing slot with
  | nil => rfl
  | cons use rest ih =>
    have here := handed_use slot use
    unfold takenOf at ih here ⊢
    rw [yields, settledAll, List.filter_append, List.map_append, ← ih, ← here,
      List.filterMap_cons]
    cases (slot.use use).1.handed? <;> rfl

/-- **Whoever puts an order in gets back the one before it, if that is superseded.** Before the
first order there is none, unless one waits in the slot already. -/
theorem displaced_eq (slot : Slot) (uses : List Use) :
    (slot.yields uses).filterMap Yield.displaced? =
      ((if slot.pending = none then [none] else []) ++
        (slot.ledger uses).map superseded?).dropLast := by
  induction uses generalizing slot with
  | nil =>
    obtain ⟨pending, closed⟩ := slot
    cases pending <;> rfl
  | cons use rest ih =>
    have later := ih (slot.use use).2
    rw [ledger_cons, yields, List.filterMap_cons]
    obtain ⟨pending, closed⟩ := slot
    cases use with
    | submit order =>
      show pending :: List.filterMap _ _ = _
      rw [later]
      cases pending <;> rfl
    | tryTake =>
      show List.filterMap _ _ = _
      rw [later]
      cases pending <;> rfl
    | take =>
      rw [use_take] at later ⊢
      show List.filterMap _ _ = _
      rw [later]
      cases pending <;> rfl
    | close => exact later

/-- How many orders were superseded. -/
def losses (yields : List Yield) : Nat :=
  (yields.filterMap Yield.displaced?).countP Option.isSome

theorem submissions_append (first second : List Use) :
    submissions (first ++ second) = submissions first ++ submissions second :=
  List.filterMap_append

theorem losses_append (first second : List Yield) :
    losses (first ++ second) = losses first + losses second := by
  unfold losses
  rw [List.filterMap_append, List.countP_append]

theorem losses_submit (slot : Slot) (order : Order) :
    losses [(slot.use (.submit order)).1] = if slot.isPending then 1 else 0 := by
  obtain ⟨pending, closed⟩ := slot
  cases pending <;> rfl

theorem length_use (slot : Slot) (use : Use) :
    (submissions [use]).length + slot.pending.toList.length =
      ([(slot.use use).1].filterMap Yield.handed?).length + losses [(slot.use use).1] +
        (slot.use use).2.pending.toList.length := by
  obtain ⟨pending, closed⟩ := slot
  cases use <;> cases pending <;> cases closed <;> rfl

/-- **Every order is handed out, superseded or waiting**, by their numbers. -/
theorem length_submissions (slot : Slot) (uses : List Use) :
    (submissions uses).length + slot.pending.toList.length =
      ((slot.yields uses).filterMap Yield.handed?).length + losses (slot.yields uses) +
        (slot.after uses).pending.toList.length := by
  induction uses generalizing slot with
  | nil => simp [submissions, yields, losses, after]
  | cons use rest ih =>
    have here := length_use slot use
    have later := ih (slot.use use).2
    have given : submissions (use :: rest) = submissions [use] ++ submissions rest :=
      submissions_append [use] rest
    have split : slot.yields (use :: rest) =
        [(slot.use use).1] ++ (slot.use use).2.yields rest := rfl
    rw [after, given, split, losses_append, List.filterMap_append, List.length_append,
      List.length_append]
    omega

theorem length_pending (slot : Slot) :
    slot.pending.toList.length = if slot.isPending then 1 else 0 := by
  obtain ⟨pending, closed⟩ := slot
  cases pending <;> rfl

/-! ### One run after another -/

theorem after_append (slot : Slot) (first second : List Use) :
    slot.after (first ++ second) = (slot.after first).after second := by
  induction first generalizing slot with
  | nil => rfl
  | cons use rest ih => exact ih _

theorem yields_append (slot : Slot) (first second : List Use) :
    slot.yields (first ++ second) = slot.yields first ++ (slot.after first).yields second := by
  induction first generalizing slot with
  | nil => rfl
  | cons use rest ih => exact congrArg (List.cons _) (ih _)

/-! ### Closing -/

/-- A slot is closed from the first close on. -/
theorem closed_after (slot : Slot) (uses : List Use) :
    (slot.after uses).closed = true ↔ slot.closed = true ∨ .close ∈ uses := by
  induction uses generalizing slot with
  | nil => exact ⟨Or.inl, fun closed => closed.resolve_right List.not_mem_nil⟩
  | cons use rest ih =>
    rw [after, ih, List.mem_cons]
    cases use with
    | close => simp [use, close]
    | submit order => simp [Slot.use, submit]
    | tryTake => simp [Slot.use, tryTake]
    | take => simp [use_take]

/-- **Only an empty slot tells that it is closed.** -/
theorem take_eq_closed_iff (slot : Slot) :
    slot.take.1 = .closed ↔ slot.closed = true ∧ slot.pending = none := by
  obtain ⟨pending, closed⟩ := slot
  cases pending with
  | none => cases closed <;> decide
  | some order => exact iff_of_false nofun fun both => nomatch both.2

/-! ### The account -/

/-- The account of a run with an empty slot. -/
structure Accounted (uses : List Use) : Prop where
  /-- Every order that is put in has one fate. -/
  each : (fates uses).map Prod.fst = submissions uses
  /-- Those whose fate it is are taken out once, in their order. -/
  taken : (Slot.yields {} uses).filterMap Yield.handed? = takenOf (fates uses)
  inTurn : ((Slot.yields {} uses).filterMap Yield.handed?).Sublist (submissions uses)
  /-- The answer to each order that is put in is the one before it, if that is superseded. -/
  superseded : (Slot.yields {} uses).filterMap Yield.displaced? =
    (none :: (fates uses).map superseded?).dropLast
  /-- The last order is never superseded, and no other is pending. -/
  last : ∀ entry, (fates uses).getLast? = some entry → entry.2 ≠ .superseded
  pending : ∀ entry ∈ (fates uses).dropLast, entry.2 ≠ .pending
  /-- What is pending waits in the slot. -/
  waits : ∀ order, (Slot.after {} uses).pending = some order ↔ (order, Fate.pending) ∈ fates uses
  /-- It is still handed out after a close. Only then a taker is told of that. -/
  handed : ∀ order, (order, Fate.pending) ∈ fates uses →
    (Slot.after {} uses).take.1 = .order order
  closed : (Slot.after {} uses).take.1 = .closed ↔
    .close ∈ uses ∧ ∀ entry ∈ fates uses, entry.2 ≠ .pending
  /-- By numbers, every order is taken out, superseded or waiting. -/
  counted : (submissions uses).length =
    ((Slot.yields {} uses).filterMap Yield.handed?).length + losses (Slot.yields {} uses) +
      if (Slot.after {} uses).isPending then 1 else 0

/-- An order that is followed by no other is not superseded. -/
theorem fate_ne_superseded {rest : List Use} (none : fates rest = []) :
    fate rest ≠ .superseded := by
  induction rest with
  | nil => exact nofun
  | cons use rest ih =>
    cases use with
    | submit order => cases none
    | tryTake => exact nofun
    | take => exact nofun
    | close => exact ih none

theorem last_ne_superseded {uses : List Use} {entry : Order × Fate}
    (last : (fates uses).getLast? = some entry) : entry.2 ≠ .superseded := by
  induction uses with
  | nil => cases last
  | cons use rest ih =>
    cases use with
    | submit order =>
      rw [fates, List.getLast?_cons] at last
      cases later : (fates rest).getLast? with
      | none =>
        rw [later] at last
        obtain rfl := Option.some.inj last
        exact fate_ne_superseded (List.getLast?_eq_none_iff.mp later)
      | some other =>
        rw [later] at last
        exact ih (later.trans last)
    | tryTake | take | close => exact ih last

/-- **No order is lost, handed out twice or out of turn.** -/
theorem orders_accounted (uses : List Use) : Accounted uses := by
  have settled := settled_ne_pending {} uses
  have ledger : fates uses = Slot.settledAll {} uses ++
      ((Slot.after {} uses).pending.map fun order => (order, Fate.pending)).toList :=
    ledger_eq {} uses
  have waits : ∀ order, (Slot.after {} uses).pending = some order ↔
      (order, Fate.pending) ∈ fates uses := by
    intro order
    rw [ledger, List.mem_append]
    constructor
    · intro waits
      rw [waits]
      exact Or.inr (List.mem_singleton_self _)
    · rintro (early | late)
      · exact absurd rfl (settled _ early)
      · obtain ⟨other, waits, same⟩ := Option.map_eq_some_iff.mp (Option.mem_toList.mp late)
        exact waits.trans (congrArg (some ·.1) same)
  have taken : (Slot.yields {} uses).filterMap Yield.handed? = takenOf (fates uses) := by
    rw [handed_eq, ledger]
    unfold takenOf
    cases (Slot.after {} uses).pending <;> simp
  have counted := length_submissions {} uses
  rw [length_pending, length_pending] at counted
  refine ⟨fates_map_fst uses, taken, ?_, displaced_eq {} uses, fun entry => last_ne_superseded, ?_,
    waits, fun order pending => ?_, ?_, counted⟩
  · rw [taken, ← fates_map_fst]
    exact List.filter_sublist.map Prod.fst
  · intro entry early
    rw [ledger] at early
    cases pending : (Slot.after {} uses).pending with
    | none =>
      rw [pending, Option.map_none, Option.toList_none, List.append_nil] at early
      exact settled entry (List.dropLast_subset _ early)
    | some order =>
      rw [pending, Option.map_some, Option.toList_some, List.dropLast_concat] at early
      exact settled entry early
  · unfold Slot.take
    rw [(waits order).mpr pending]
  · rw [take_eq_closed_iff, closed_after]
    refine and_congr ⟨fun closed => closed.resolve_left nofun, Or.inr⟩ ?_
    constructor
    · rintro empty ⟨order, fate⟩ entry rfl
      exact nomatch empty.symm.trans ((waits order).mpr entry)
    · intro noneOpen
      cases pending : (Slot.after {} uses).pending with
      | none => rfl
      | some order => exact absurd rfl (noneOpen _ ((waits order).mp pending))

end TouchDispatch.Slot
