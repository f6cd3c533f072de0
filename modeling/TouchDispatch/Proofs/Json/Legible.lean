/-
**What reading can give.**

* `Number.Fits`: a whole number of at most 64 bits, or any floating-point number;
* `Value.Legible`: a value of which all numbers fit, all objects are in order, and no part lies
  deeper than a number of levels;
* `Value.doubles`: the floating-point numbers in a value;
* `Value.Given`: a legible value in which they are finite;
* `gives`: what every reader gives is given, down to the depth at which reading stops;
* `given_object`, `legible_object`: **the members of every object that is read are given.**
-/

import TouchDispatch.Json.Reader
import TouchDispatch.Proofs.Json.Numerals
import TouchDispatch.Proofs.Json.Order
import TouchDispatch.Proofs.Number.Rereading

namespace TouchDispatch.Json

open TouchDispatch.Number

/-- A whole number of at most 64 bits, or any floating-point number. -/
def Number.Fits : Number → Prop
  | .whole value => Json.Fits value
  | .double _ => True

mutual

/-- A value that reading can give at a depth: its numbers fit, its objects are in order, and it is
nested in less than that many levels. -/
def Value.Legible (depth : Nat) : Value → Prop
  | .null | .bool _ | .text _ => True
  | .number number => number.Fits
  | .array items => 1 < depth ∧ LegibleItems (depth - 1) items
  | .object members => 1 < depth ∧ Fields.Ordered members ∧ LegibleMembers (depth - 1) members

/-- Items that reading can give at a depth. -/
def LegibleItems (depth : Nat) : List Value → Prop
  | [] => True
  | item :: rest => item.Legible depth ∧ LegibleItems depth rest

/-- Values of members that reading can give at a depth. -/
def LegibleMembers (depth : Nat) : List (String × Value) → Prop
  | [] => True
  | (_, value) :: rest => value.Legible depth ∧ LegibleMembers depth rest

end

theorem legibleMembers_iff {depth : Nat} {members : List (String × Value)} :
    LegibleMembers depth members ↔ ∀ member ∈ members, member.2.Legible depth := by
  induction members with
  | nil => exact iff_of_true trivial (List.forall_mem_nil _)
  | cons member rest ih =>
    rw [List.forall_mem_cons, ← ih]
    exact Iff.rfl

theorem LegibleMembers.insert {depth : Nat} {members : Fields} {name : String} {value : Value}
    (legible : LegibleMembers depth members) (here : value.Legible depth) :
    LegibleMembers depth (members.insert name value) := by
  rw [legibleMembers_iff] at legible ⊢
  intro member found
  rcases Fields.mem_insert found with rfl | found
  · exact here
  · exact legible member found

/-! ### Floating-point numbers -/

/-- The floating-point number that a number may be. -/
def Number.doubles : Number → List Binary64
  | .whole _ => []
  | .double value => [value]

mutual

/-- The floating-point numbers in a value. -/
def Value.doubles : Value → List Binary64
  | .null | .bool _ | .text _ => []
  | .number number => number.doubles
  | .array items => itemDoubles items
  | .object members => memberDoubles members

/-- The floating-point numbers in items. -/
def itemDoubles : List Value → List Binary64
  | [] => []
  | item :: rest => item.doubles ++ itemDoubles rest

/-- The floating-point numbers in the values of members. -/
def memberDoubles : List (String × Value) → List Binary64
  | [] => []
  | (_, value) :: rest => value.doubles ++ memberDoubles rest

end

theorem mem_memberDoubles {members : List (String × Value)} {double : Binary64} :
    double ∈ memberDoubles members ↔ ∃ member ∈ members, double ∈ member.2.doubles := by
  induction members with
  | nil => exact iff_of_false List.not_mem_nil nofun
  | cons member rest ih =>
    simp only [List.mem_cons, exists_eq_or_imp, ← ih]
    exact List.mem_append

/-- A number that reading can give: it fits, and is finite if it is a floating-point number. -/
def Number.Given (number : Number) : Prop :=
  number.Fits ∧ ∀ double ∈ number.doubles, double.Finite

/-- A value that reading can give at a depth. -/
def Value.Given (depth : Nat) (value : Value) : Prop :=
  value.Legible depth ∧ ∀ double ∈ value.doubles, double.Finite

/-- Items that reading can give at a depth. -/
def GivenItems (depth : Nat) (items : List Value) : Prop :=
  LegibleItems depth items ∧ ∀ double ∈ itemDoubles items, double.Finite

/-- Members that reading can give at a depth, in order. -/
structure GivenMembers (depth : Nat) (members : Fields) : Prop where
  ordered : members.Ordered
  legible : LegibleMembers depth members
  finite : ∀ double ∈ memberDoubles members, double.Finite

theorem givenMembers_nil {depth : Nat} : GivenMembers depth [] :=
  ⟨Fields.ordered_nil, trivial, List.forall_mem_nil _⟩

theorem GivenMembers.insert {depth : Nat} {members : Fields} {value : Value}
    (given : GivenMembers depth members) (name : String) (here : value.Given depth) :
    GivenMembers depth (members.insert name value) := by
  refine ⟨given.ordered.insert name value, given.legible.insert here.1, fun double found => ?_⟩
  obtain ⟨member, inserted, inside⟩ := mem_memberDoubles.mp found
  rcases Fields.mem_insert inserted with rfl | old
  · exact here.2 double inside
  · exact given.finite double (mem_memberDoubles.mpr ⟨member, old, inside⟩)

theorem givenItems_cons {depth : Nat} {item : Value} {items : List Value}
    (here : item.Given depth) (others : GivenItems depth items) :
    GivenItems depth (item :: items) :=
  ⟨⟨here.1, others.1⟩, List.forall_mem_append.mpr ⟨here.2, others.2⟩⟩

/-! ### Numbers -/

section Numbers

variable {number : Number} {rest : List UInt8} {negative : Bool} {significand : Nat}

theorem absorb_le {limit total sum : Nat} {run others : List UInt8} (fits : total ≤ limit)
    (absorbed : absorb limit total run = (sum, others)) : sum ≤ limit := by
  induction run generalizing total with
  | nil =>
    obtain rfl : total = sum := congrArg Prod.fst absorbed
    exact fits
  | cons digit rest ih =>
    unfold absorb at absorbed
    split at absorbed
    · next more => exact ih more absorbed
    · obtain rfl : total = sum := congrArg Prod.fst absorbed
      exact fits

theorem given_double {double : Binary64} (finite : double.Finite) : (Number.double double).Given :=
  ⟨trivial, List.forall_mem_singleton.mpr finite⟩

theorem given_readScaled {exponent : Int} {input : List UInt8}
    (small : significand ≤ greatestSignificand)
    (read : readScaled negative significand exponent input = .ok (number, rest)) :
    number.Given := by
  unfold readScaled at read
  split at read
  · next scaled =>
    cases read
    exact given_double (Binary64.finite_of_ofDecimal (small.trans (by decide)) scaled)
  · cases read

theorem given_readExponent {exponent : Int} {input : List UInt8}
    (small : significand ≤ greatestSignificand)
    (read : readExponent negative significand exponent input = .ok (number, rest)) :
    number.Given := by
  unfold readExponent at read
  dsimp only at read
  split at read
  · cases read
  · split at read
    · cases read
    · split at read
      · exact given_readScaled small read
      · split at read
        · cases read
        · cases read
          exact given_double (show 0 < Binary64.infinite by decide)

theorem given_readTail {exponent : Int} {input : List UInt8}
    (small : significand ≤ greatestSignificand)
    (read : readTail negative significand exponent input = .ok (number, rest)) :
    number.Given := by
  unfold readTail at read
  split at read
  · exact given_readScaled small read
  · split at read
    · exact given_readExponent small read
    · exact given_readScaled small read

theorem given_readFraction {exponent : Int} {input : List UInt8}
    (small : significand ≤ greatestSignificand)
    (read : readFraction negative significand exponent input = .ok (number, rest)) :
    number.Given := by
  unfold readFraction at read
  dsimp only at read
  split at read
  · split at read
    · cases read
    · cases read
  · exact given_readTail (absorb_le small rfl) read

theorem given_wholeOrDouble (negative : Bool) (small : significand ≤ greatestSignificand) :
    (wholeOrDouble negative significand).Given := by
  unfold wholeOrDouble
  cases negative with
  | false =>
    refine ⟨?_, nofun⟩
    show -(greatestNegated : Int) ≤ significand ∧ (significand : Int) ≤ greatestSignificand
    omega
  | true =>
    rw [if_pos rfl]
    split
    · exact given_double (Binary64.ofNat_lt_infinite (small.trans (by decide)))
    · next kept =>
      refine ⟨?_, nofun⟩
      show -(greatestNegated : Int) ≤ -(significand : Int) ∧
        -(significand : Int) ≤ greatestSignificand
      omega

theorem given_readAfterWhole {input : List UInt8} (small : significand ≤ greatestSignificand)
    (read : readAfterWhole negative significand input = .ok (number, rest)) : number.Given := by
  unfold readAfterWhole at read
  split at read
  · cases read
    exact given_wholeOrDouble negative small
  · split at read
    · exact given_readFraction small read
    · split at read
      · exact given_readExponent small read
      · cases read
        exact given_wholeOrDouble negative small

theorem given_readAfterLong {extra : Nat} {input : List UInt8}
    (small : significand ≤ greatestSignificand)
    (read : readAfterLong negative significand extra input = .ok (number, rest)) :
    number.Given := by
  unfold readAfterLong at read
  split at read
  · exact given_readTail small read
  · split at read
    · exact given_readFraction small read
    · exact given_readTail small read

/-- **Every number that is read is given.** -/
theorem given_readNumber {input : List UInt8}
    (read : readNumber negative input = .ok (number, rest)) : number.Given := by
  unfold readNumber at read
  split at read
  · cases read
  · next first more =>
    split at read
    · cases read
    · next digit =>
      have small : digitValue first ≤ greatestSignificand :=
        (digitValue_le (Bool.of_not_eq_false fun other => digit (by rw [other]; rfl))).trans
          (by decide)
      split at read
      · split at read
        · cases read
        · exact given_readAfterWhole (Nat.zero_le _) read
      · dsimp only at read
        split at read
        · next absorbed => exact given_readAfterWhole (absorb_le small absorbed) read
        · next absorbed => exact given_readAfterLong (absorb_le small absorbed) read

end Numbers

/-! ### Values -/

theorem of_map_eq_ok {α β : Type} {reading : Reading α} {make : α × List UInt8 → β × List UInt8}
    {result : β × List UInt8} (mapped : reading.map make = .ok result) :
    ∃ answer, reading = .ok answer ∧ make answer = result := by
  cases reading with
  | error stop => cases mapped
  | ok answer => exact ⟨answer, rfl, Except.ok.inj mapped⟩

theorem of_readWord {α : Type} {result given : α} {letters input rest : List UInt8}
    (read : readWord result letters input = .ok (given, rest)) : given = result := by
  induction letters generalizing input with
  | nil =>
    cases read
    rfl
  | cons letter letters ih =>
    cases input with
    | nil => cases read
    | cons octet input =>
      unfold readWord at read
      split at read
      · exact ih read
      · cases read

/-- What the readers of values give with an amount of fuel. -/
structure Gives (fuel : Nat) : Prop where
  value : ∀ {depth input value rest}, readValue fuel depth input = .ok (value, rest) →
    value.Given depth
  items : ∀ {depth first input items rest}, readItems fuel depth first input = .ok (items, rest) →
    GivenItems depth items
  item : ∀ {depth input items rest}, readItem fuel depth input = .ok (items, rest) →
    GivenItems depth items
  members : ∀ {depth first before input members rest},
    readMembers fuel depth first before input = .ok (members, rest) →
    GivenMembers depth before → GivenMembers depth members
  member : ∀ {depth before input members rest},
    readMember fuel depth before input = .ok (members, rest) →
    GivenMembers depth before → GivenMembers depth members

namespace Gives

variable {fuel : Nat}

theorem zero : Gives 0 where
  value read := by
    unfold readValue at read
    cases read
  items read := by
    unfold readItems at read
    cases read
  item read := by
    unfold readItem at read
    cases read
  members read := by
    unfold readMembers at read
    cases read
  member read := by
    unfold readMember at read
    cases read

theorem succ_value (gives : Gives fuel) {depth : Nat} {input rest : List UInt8}
    {value : Value} (read : readValue (fuel + 1) depth input = .ok (value, rest)) :
    value.Given depth := by
  unfold readValue at read
  split at read
  · cases read
  split at read
  · obtain rfl := of_readWord read
    exact ⟨trivial, List.forall_mem_nil _⟩
  split at read
  · obtain rfl := of_readWord read
    exact ⟨trivial, List.forall_mem_nil _⟩
  split at read
  · obtain rfl := of_readWord read
    exact ⟨trivial, List.forall_mem_nil _⟩
  split at read
  · obtain ⟨⟨number, left⟩, numeral, made⟩ := of_map_eq_ok read
    cases made
    exact given_readNumber numeral
  split at read
  · obtain ⟨⟨number, left⟩, numeral, made⟩ := of_map_eq_ok read
    cases made
    exact given_readNumber numeral
  split at read
  · obtain ⟨⟨text, left⟩, _, made⟩ := of_map_eq_ok read
    cases made
    exact ⟨trivial, List.forall_mem_nil _⟩
  split at read
  · split at read
    · cases read
    · next deep =>
      obtain ⟨⟨items, left⟩, list, made⟩ := of_map_eq_ok read
      cases made
      obtain ⟨legible, finite⟩ := gives.items list
      exact ⟨⟨Nat.lt_of_not_le deep, legible⟩, finite⟩
  split at read
  · split at read
    · cases read
    · next deep =>
      obtain ⟨⟨members, left⟩, list, made⟩ := of_map_eq_ok read
      cases made
      obtain ⟨ordered, legible, finite⟩ := gives.members list givenMembers_nil
      exact ⟨⟨Nat.lt_of_not_le deep, ordered, legible⟩, finite⟩
  · cases read

theorem succ_items (gives : Gives fuel) {depth : Nat} {first : Bool}
    {input rest : List UInt8} {items : List Value}
    (read : readItems (fuel + 1) depth first input = .ok (items, rest)) :
    GivenItems depth items := by
  unfold readItems at read
  split at read
  · cases read
  split at read
  · cases read
    exact ⟨trivial, List.forall_mem_nil _⟩
  split at read
  · exact gives.item read
  split at read
  · split at read
    · cases read
    · split at read
      · cases read
      · exact gives.item read
  · cases read

theorem succ_item (gives : Gives fuel) {depth : Nat} {input rest : List UInt8}
    {items : List Value} (read : readItem (fuel + 1) depth input = .ok (items, rest)) :
    GivenItems depth items := by
  unfold readItem at read
  split at read
  · cases read
  · next here =>
    obtain ⟨⟨others, left⟩, more, made⟩ := of_map_eq_ok read
    cases made
    exact givenItems_cons (gives.value here) (gives.items more)

theorem succ_members (gives : Gives fuel) {depth : Nat} {first : Bool} {before : Fields}
    {input rest : List UInt8} {members : Fields}
    (read : readMembers (fuel + 1) depth first before input = .ok (members, rest))
    (given : GivenMembers depth before) : GivenMembers depth members := by
  unfold readMembers at read
  split at read
  · cases read
  split at read
  · cases read
    exact given
  split at read
  · split at read
    · exact gives.member read given
    · cases read
  split at read
  · split at read
    · cases read
    · split at read
      · exact gives.member read given
      · split at read
        · cases read
        · cases read
  · cases read

theorem succ_member (gives : Gives fuel) {depth : Nat} {before : Fields}
    {input rest : List UInt8} {members : Fields}
    (read : readMember (fuel + 1) depth before input = .ok (members, rest))
    (given : GivenMembers depth before) : GivenMembers depth members := by
  unfold readMember at read
  split at read
  · cases read
  split at read
  · cases read
  split at read
  · cases read
  · next here => exact gives.members read (given.insert _ (gives.value here))

end Gives

/-- The readers call one another with less fuel, so this is an induction on the fuel. -/
theorem gives (fuel : Nat) : Gives fuel := by
  induction fuel with
  | zero => exact .zero
  | succ fuel ih => exact ⟨ih.succ_value, ih.succ_items, ih.succ_item, ih.succ_members,
      ih.succ_member⟩

/-! ### Documents -/

theorem of_located {α : Type} {input : List UInt8} {reading : Except Stop α} {result : α}
    (read : located input reading = .ok result) : reading = .ok result := by
  cases reading with
  | error stop => cases read
  | ok given => exact congrArg Except.ok (Except.ok.inj read)

theorem of_finish {α : Type} {result given : α} {rest : List UInt8}
    (read : finish given rest = .ok result) : given = result := by
  unfold finish at read
  split at read
  · exact Except.ok.inj read
  · cases read

theorem refuse_ne_ok {α : Type} {found : Reading Found} {result : α} :
    refuse found ≠ .ok result := by
  unfold refuse
  split
  · exact nofun
  · exact nofun

/-- **The members of every object that is read are given, and in order.** -/
theorem given_object {input : List UInt8} {members : Fields}
    (read : object input = .ok members) : GivenMembers (depthLimit - 1) members := by
  have whole := of_located read
  unfold readObject at whole
  split at whole
  · cases whole
  split at whole
  · split at whole
    · cases whole
    · next inner =>
      obtain rfl := of_finish whole
      exact (gives _).members inner givenMembers_nil
  split at whole
  · exact absurd whole refuse_ne_ok
  split at whole
  · exact absurd whole refuse_ne_ok
  split at whole
  · exact absurd whole refuse_ne_ok
  split at whole
  · exact absurd whole refuse_ne_ok
  split at whole
  · exact absurd whole refuse_ne_ok
  split at whole
  · exact absurd whole refuse_ne_ok
  split at whole
  · cases whole
  · cases whole

theorem legible_object {input : List UInt8} {members : Fields}
    (read : object input = .ok members) :
    members.Ordered ∧ LegibleMembers (depthLimit - 1) members := by
  obtain ⟨ordered, legible, _⟩ := given_object read
  exact ⟨ordered, legible⟩

end TouchDispatch.Json
