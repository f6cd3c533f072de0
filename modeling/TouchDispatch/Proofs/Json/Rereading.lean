/-
**What is written is read back.**

* `Value.reread`: a value with each floating-point number as a reader makes it of its text;
* `readValue_pretty`: **this is read from the text of a value that is given at a depth**, with as
  much fuel as the text has octets;
* `object_reread`: the same of an object;
* `Value.Steady`, `Value.same_reread_iff`: **a value that is the same as what is read from its text
  is one in which all floating-point numbers are read back**;
* `Value.Exact`: a value without floating-point numbers, which is read back as it was.

The order of the members matters: they are read one after another, and each is set at the end only
because its name comes after all others.
-/

import TouchDispatch.Proofs.Json.Doubles
import TouchDispatch.Proofs.Json.Legible
import TouchDispatch.Proofs.Json.Strings

namespace TouchDispatch.Json

open TouchDispatch.Number TouchDispatch.Text

/-! ### Floating-point numbers -/

/-- The number that is read from the text of a number. -/
def Number.reread : Number → Number
  | .whole value => .whole value
  | .double value => .double (layout.reread value)

mutual

/-- A value with each number as it is read from its text. -/
def Value.reread : Value → Value
  | .null => .null
  | .bool value => .bool value
  | .number number => .number number.reread
  | .text value => .text value
  | .array items => .array (rereadItems items)
  | .object members => .object (rereadMembers members)

/-- Items with each number as it is read from its text. -/
def rereadItems : List Value → List Value
  | [] => []
  | item :: rest => item.reread :: rereadItems rest

/-- Members with each number as it is read from its text. -/
def rereadMembers : List (String × Value) → List (String × Value)
  | [] => []
  | (name, value) :: rest => (name, value.reread) :: rereadMembers rest

end

/-- A value in which all numbers are read back from their texts. -/
def Value.Steady (value : Value) : Prop :=
  ∀ double ∈ value.doubles, layout.Steady double

mutual

/-- A value in which all numbers are read back is read back itself. -/
theorem Value.reread_of_steady (value : Value) (steady : value.Steady) :
    value.reread = value := by
  cases value with
  | null | bool | text => rfl
  | number number =>
    cases number with
    | whole value => rfl
    | double double =>
      exact congrArg (Value.number ∘ Number.double) (steady double List.mem_cons_self)
  | array items => exact congrArg Value.array (rereadItems_of_steady items steady)
  | object members => exact congrArg Value.object (rereadMembers_of_steady members steady)

theorem rereadItems_of_steady (items : List Value)
    (steady : ∀ double ∈ itemDoubles items, layout.Steady double) : rereadItems items = items := by
  cases items with
  | nil => rfl
  | cons item items =>
    obtain ⟨here, others⟩ := List.forall_mem_append.mp steady
    rw [rereadItems, item.reread_of_steady here, rereadItems_of_steady items others]

theorem rereadMembers_of_steady (members : List (String × Value))
    (steady : ∀ double ∈ memberDoubles members, layout.Steady double) :
    rereadMembers members = members := by
  cases members with
  | nil => rfl
  | cons member members =>
    obtain ⟨here, others⟩ := List.forall_mem_append.mp steady
    rw [rereadMembers, member.2.reread_of_steady here, rereadMembers_of_steady members others]

end

mutual

/-- **A value that is the same as what is read from its text is read back.** -/
theorem Value.same_reread_iff (value : Value) :
    value.same value.reread = true ↔ value.Steady := by
  cases value with
  | null => exact iff_of_true rfl (List.forall_mem_nil _)
  | bool | text => exact iff_of_true BEq.rfl (List.forall_mem_nil _)
  | number number =>
    cases number with
    | whole value => exact iff_of_true BEq.rfl (List.forall_mem_nil _)
    | double double => exact Layout.same_reread_iff.trans List.forall_mem_singleton.symm
  | array items => exact sameItems_reread_iff items
  | object members => exact sameMembers_reread_iff members

theorem sameItems_reread_iff (items : List Value) :
    sameItems items (rereadItems items) = true ↔
      ∀ double ∈ itemDoubles items, layout.Steady double := by
  cases items with
  | nil => exact iff_of_true rfl (List.forall_mem_nil _)
  | cons item items =>
    rw [rereadItems, sameItems, Bool.and_eq_true, item.same_reread_iff,
      sameItems_reread_iff items]
    exact List.forall_mem_append.symm

theorem sameMembers_reread_iff (members : List (String × Value)) :
    sameMembers members (rereadMembers members) = true ↔
      ∀ double ∈ memberDoubles members, layout.Steady double := by
  cases members with
  | nil => exact iff_of_true rfl (List.forall_mem_nil _)
  | cons member members =>
    rw [rereadMembers, sameMembers, BEq.rfl, Bool.true_and, Bool.and_eq_true,
      member.2.same_reread_iff, sameMembers_reread_iff members]
    exact List.forall_mem_append.symm

end

theorem names_rereadMembers (members : Fields) :
    Fields.names (rereadMembers members) = members.names := by
  induction members with
  | nil => rfl
  | cons member members ih => exact congrArg (member.1 :: ·) ih

/-- The names keep their values, each as it is read from its text. -/
theorem get?_rereadMembers (members : Fields) (name : String) :
    Fields.get? (rereadMembers members) name = (members.get? name).map Value.reread := by
  induction members with
  | nil => rfl
  | cons member members ih =>
    obtain ⟨other, value⟩ := member
    rw [rereadMembers, Fields.get?, Fields.get?, ih]
    split <;> rfl

mutual

/-- A value without floating-point numbers. -/
def Value.Exact : Value → Prop
  | .null | .bool _ | .text _ | .number (.whole _) => True
  | .number (.double _) => False
  | .array items => ExactItems items
  | .object members => ExactMembers members

/-- Items without floating-point numbers. -/
def ExactItems : List Value → Prop
  | [] => True
  | item :: rest => item.Exact ∧ ExactItems rest

/-- Members without floating-point numbers. -/
def ExactMembers : List (String × Value) → Prop
  | [] => True
  | (_, value) :: rest => value.Exact ∧ ExactMembers rest

end

theorem exactMembers_iff {members : List (String × Value)} :
    ExactMembers members ↔ ∀ member ∈ members, member.2.Exact := by
  induction members with
  | nil => exact iff_of_true trivial (List.forall_mem_nil _)
  | cons member rest ih =>
    rw [List.forall_mem_cons, ← ih]
    exact Iff.rfl

mutual

theorem Value.doubles_of_exact (value : Value) (exact : value.Exact) : value.doubles = [] := by
  cases value with
  | null | bool | text => rfl
  | number number =>
    cases number with
    | whole value => rfl
    | double value => cases exact
  | array items => exact itemDoubles_of_exact items exact
  | object members => exact memberDoubles_of_exact members exact

theorem itemDoubles_of_exact (items : List Value) (exact : ExactItems items) :
    itemDoubles items = [] := by
  cases items with
  | nil => rfl
  | cons item items =>
    rw [itemDoubles, item.doubles_of_exact exact.1, itemDoubles_of_exact items exact.2]
    rfl

theorem memberDoubles_of_exact (members : List (String × Value)) (exact : ExactMembers members) :
    memberDoubles members = [] := by
  cases members with
  | nil => rfl
  | cons member members =>
    rw [memberDoubles, member.2.doubles_of_exact exact.1, memberDoubles_of_exact members exact.2]
    rfl

end

/-! ### White space -/

theorem encode_newLine (level : Nat) :
    Utf8.encode (newLine level) = 10 :: List.replicate (2 * level) 32 := by
  have blanks : ∀ count, Utf8.encode (List.replicate count ' ') = List.replicate count 32 := by
    intro count
    induction count with
    | zero => rfl
    | succ count ih =>
      rw [List.replicate_succ, Utf8.encode_cons, ih]
      rfl
  rw [newLine, Utf8.encode_cons, blanks]
  rfl

theorem skipSpace_newLine (level : Nat) (tail : List UInt8) :
    skipSpace (Utf8.encode (newLine level) ++ tail) = skipSpace tail := by
  have blanks : ∀ octet ∈ 10 :: List.replicate (2 * level) 32, isSpace octet = true := by
    intro octet member
    rcases List.mem_cons.mp member with rfl | member
    · rfl
    · rw [List.eq_of_mem_replicate member]
      rfl
  rw [encode_newLine]
  exact List.dropWhile_append_of_pos blanks

theorem skipSpace_cons {octet : UInt8} (visible : isSpace octet = false) (tail : List UInt8) :
    skipSpace (octet :: tail) = octet :: tail := by
  rw [skipSpace, List.dropWhile_cons, visible]
  rfl

theorem breaks_cons {octet : UInt8} (noDigit : isDigit octet = false) (noPoint : octet ≠ 46)
    (noExponent : isExponentMark octet = false) (tail : List UInt8) : Breaks (octet :: tail) := by
  intro other first
  obtain rfl := Option.some.inj first
  exact ⟨noDigit, noPoint, noExponent⟩

theorem breaks_newLine (level : Nat) (tail : List UInt8) :
    Breaks (Utf8.encode (newLine level) ++ tail) := by
  rw [encode_newLine]
  exact breaks_cons rfl (by decide) rfl _

/-! ### The first octet of a value -/

/-- An octet that a value may begin with: no white space, and no closing bracket. -/
def Begins (octet : UInt8) : Prop :=
  isSpace octet = false ∧ octet ≠ 93

theorem begins_digit {octet : UInt8} (digit : isDigit octet = true) : Begins octet := by
  simp only [isDigit, Bool.and_eq_true, decide_eq_true_eq] at digit
  refine ⟨?_, ?_⟩
  · simp only [isSpace, Bool.or_eq_false_iff, beq_eq_false_iff_ne, ne_eq]
    refine ⟨⟨⟨?_, ?_⟩, ?_⟩, ?_⟩
    all_goals
      rintro rfl
      exact absurd digit (by decide)
  · rintro rfl
    exact absurd digit (by decide)

theorem integer_head (value : Int) (fits : Fits value) :
    ∃ octet more, Utf8.encode (Decimal.integer value) = octet :: more ∧ Begins octet := by
  have small : value.natAbs ≤ greatestSignificand + greatestNegated := by
    obtain ⟨least, greatest⟩ := fits
    omega
  obtain ⟨first, more, octets, digit, _⟩ := absorb_digits value.natAbs small
  unfold Decimal.integer
  split
  · exact ⟨45, _, rfl, by decide, by decide⟩
  · exact ⟨first, more, octets, begins_digit digit⟩

theorem breaks_nil : Breaks [] :=
  nofun

theorem double_head {number : Binary64} (finite : number.Finite) :
    ∃ octet more, Utf8.encode (layout.text number) = octet :: more ∧ Begins octet := by
  obtain ⟨first, more, octets, digit⟩ := digit_of_readNumber (readNumber_double finite breaks_nil)
  rw [List.append_nil] at octets
  rw [Layout.text_eq]
  split
  · exact ⟨45, _, rfl, by decide, by decide⟩
  · exact ⟨first, more, octets, begins_digit digit⟩

theorem pretty_head (value : Value) (level : Nat) {depth : Nat} (legible : value.Legible depth)
    (finite : ∀ double ∈ value.doubles, double.Finite) :
    ∃ octet more, Utf8.encode (value.pretty level) = octet :: more ∧ Begins octet := by
  cases value with
  | null => exact ⟨110, _, rfl, by decide, by decide⟩
  | bool value =>
    cases value with
    | false => exact ⟨102, _, rfl, by decide, by decide⟩
    | true => exact ⟨116, _, rfl, by decide, by decide⟩
  | number number =>
    cases number with
    | whole value => exact integer_head value legible
    | double value => exact double_head (finite value List.mem_cons_self)
  | text value => exact ⟨34, _, encode_quote value, by decide, by decide⟩
  | array items =>
    cases items with
    | nil => exact ⟨91, _, rfl, by decide, by decide⟩
    | cons item items => exact ⟨91, _, rfl, by decide, by decide⟩
  | object members =>
    cases members with
    | nil => exact ⟨123, _, rfl, by decide, by decide⟩
    | cons member members => exact ⟨123, _, rfl, by decide, by decide⟩

/-! ### Values without parts -/

theorem readWord_self {α : Type} (result : α) (letters rest : List UInt8) :
    readWord result letters (letters ++ rest) = .ok (result, rest) := by
  induction letters with
  | nil => rfl
  | cons letter letters ih => exact (if_pos rfl).trans ih

section Parts

variable {fuel depth level : Nat} {rest : List UInt8}

theorem readValue_null : readValue (fuel + 1) depth (Utf8.encode "null".toList ++ rest) =
    .ok (.null, rest) := by
  show readValue (fuel + 1) depth (110 :: (nullTail ++ rest)) = _
  rw [readValue, skipSpace_cons rfl]
  exact readWord_self _ _ _

theorem readValue_bool (value : Bool) :
    readValue (fuel + 1) depth (Utf8.encode (boolText value) ++ rest) =
      .ok (.bool value, rest) := by
  cases value with
  | false =>
    show readValue (fuel + 1) depth (102 :: (falseTail ++ rest)) = _
    rw [readValue, skipSpace_cons rfl]
    exact readWord_self _ _ _
  | true =>
    show readValue (fuel + 1) depth (116 :: (trueTail ++ rest)) = _
    rw [readValue, skipSpace_cons rfl]
    exact readWord_self _ _ _

theorem readValue_text (text : String) :
    readValue (fuel + 1) depth (Utf8.encode (quote text) ++ rest) = .ok (.text text, rest) := by
  rw [encode_quote, List.cons_append, readValue, skipSpace_cons rfl]
  show (readString _).map _ = _
  rw [readString_quote]
  rfl

theorem readValue_digit {first : UInt8} (digit : isDigit first = true) (more : List UInt8) :
    readValue (fuel + 1) depth (first :: more) =
      (readNumber false (first :: more)).map fun (number, rest) => (.number number, rest) := by
  have other : ∀ octet, isDigit octet = false → first ≠ octet := by
    rintro octet noDigit rfl
    rw [digit] at noDigit
    cases noDigit
  rw [readValue, skipSpace_cons (begins_digit digit).1]
  dsimp only
  rw [if_neg (other 110 rfl), if_neg (other 116 rfl), if_neg (other 102 rfl),
    if_neg (other 45 rfl), if_pos digit]

theorem readValue_integer {value : Int} (fits : Fits value) (breaks : Breaks rest) :
    readValue (fuel + 1) depth (Utf8.encode (Decimal.integer value) ++ rest) =
      .ok (.number (.whole value), rest) := by
  have kept := wholeOrDouble_natAbs fits
  have small : value.natAbs ≤ greatestSignificand := by
    obtain ⟨least, greatest⟩ := fits
    have : greatestNegated ≤ greatestSignificand := by decide
    omega
  unfold Decimal.integer
  by_cases negative : value < 0
  · rw [decide_eq_true negative] at kept
    rw [if_pos negative]
    show readValue (fuel + 1) depth (45 :: (Utf8.encode (Decimal.digits value.natAbs) ++ rest)) = _
    rw [readValue, skipSpace_cons rfl]
    show (readNumber true _).map _ = _
    rw [readNumber_digits small true breaks, kept]
    rfl
  · rw [decide_eq_false negative] at kept
    rw [if_neg negative]
    obtain ⟨first, more, octets, digit, _⟩ := absorb_digits value.natAbs small
    have read := readNumber_digits small false breaks
    rw [octets, List.cons_append] at read ⊢
    rw [readValue_digit digit, read, kept]
    rfl

theorem readValue_double {number : Binary64} (finite : number.Finite) (breaks : Breaks rest) :
    readValue (fuel + 1) depth (Utf8.encode (layout.text number) ++ rest) =
      .ok (.number (.double (layout.reread number)), rest) := by
  have read := readNumber_double finite breaks
  rw [Layout.text_eq]
  cases sign : number.negative with
  | true =>
    rw [sign] at read
    rw [if_pos rfl]
    show readValue (fuel + 1) depth
      (45 :: (Utf8.encode (layout.unsigned number.magnitude) ++ rest)) = _
    rw [readValue, skipSpace_cons rfl]
    show (readNumber true _).map _ = _
    rw [read]
    rfl
  | false =>
    rw [sign] at read
    obtain ⟨first, more, octets, digit⟩ := digit_of_readNumber read
    rw [if_neg Bool.false_ne_true]
    rw [octets] at read ⊢
    rw [readValue_digit digit, read]
    rfl

end Parts

/-! ### Octets of values with parts -/

/-- What stands before an item or a member: a comma, unless it is the first, and a line break. -/
def leadOctets (level : Nat) (first : Bool) : List UInt8 :=
  (if first then [] else [44]) ++ Utf8.encode (newLine (level + 1))

/-- What closes an array or an object, on a line of its own unless nothing was in it. -/
def closeOctets (level : Nat) (first : Bool) (bracket : UInt8) : List UInt8 :=
  (if first then [] else Utf8.encode (newLine level)) ++ [bracket]

/-- The octets of items and of the closing bracket; `first` says that no item stands before. -/
def itemsOctets (level : Nat) (first : Bool) : List Value → List UInt8
  | [] => closeOctets level first 93
  | item :: items =>
    leadOctets level first ++
      (Utf8.encode (item.pretty (level + 1)) ++ itemsOctets level false items)

/-- The octets of a member from its opening quote on. -/
def memberOctets (level : Nat) (name : String) (value : Value) (tail : List UInt8) : List UInt8 :=
  34 :: (Utf8.encode (name.toList.flatMap escapeChar ++ ['"']) ++
    (58 :: 32 :: (Utf8.encode (value.pretty (level + 1)) ++ tail)))

/-- The octets of members and of the closing brace; `first` says that no member stands before. -/
def membersOctets (level : Nat) (first : Bool) : List (String × Value) → List UInt8
  | [] => closeOctets level first 125
  | (name, value) :: members =>
    leadOctets level first ++ memberOctets level name value (membersOctets level false members)

theorem encode_items (level : Nat) (items : List Value) :
    Utf8.encode (prettyItems level items) = itemsOctets level false items := by
  induction items with
  | nil => exact Utf8.encode_append _ _
  | cons item items ih =>
    rw [prettyItems, List.append_assoc, List.cons_append, Utf8.encode_cons, Utf8.encode_append,
      Utf8.encode_append, ih]
    rfl

theorem encode_array (level : Nat) (items : List Value) :
    Utf8.encode ((Value.array items).pretty level) = 91 :: itemsOctets level true items := by
  cases items with
  | nil => rfl
  | cons item items =>
    rw [Value.pretty, List.append_assoc, List.cons_append, Utf8.encode_cons, Utf8.encode_append,
      Utf8.encode_append, encode_items]
    rfl

theorem encode_members (level : Nat) (members : List (String × Value)) :
    Utf8.encode (prettyMembers level members) = membersOctets level false members := by
  induction members with
  | nil => exact Utf8.encode_append _ _
  | cons member members ih =>
    rw [prettyMembers, membersOctets, ← ih]
    simp only [memberOctets, List.append_assoc, List.cons_append, Utf8.encode_cons,
      Utf8.encode_append, encode_quote]
    rfl

theorem encode_object (level : Nat) (members : List (String × Value)) :
    Utf8.encode ((Value.object members).pretty level) =
      123 :: membersOctets level true members := by
  cases members with
  | nil => rfl
  | cons member members =>
    rw [Value.pretty, membersOctets, ← encode_members]
    simp only [memberOctets, List.append_assoc, List.cons_append, Utf8.encode_cons,
      Utf8.encode_append, encode_quote]
    rfl

theorem breaks_close (level : Nat) {bracket : UInt8} (tail : List UInt8) :
    Breaks (closeOctets level false bracket ++ tail) := by
  rw [closeOctets, List.append_assoc]
  exact breaks_newLine _ _

theorem breaks_items (level : Nat) (items : List Value) (rest : List UInt8) :
    Breaks (itemsOctets level false items ++ rest) := by
  cases items with
  | nil => exact breaks_close level rest
  | cons item items => exact breaks_cons rfl (by decide) rfl _

theorem breaks_members (level : Nat) (members : List (String × Value)) (rest : List UInt8) :
    Breaks (membersOctets level false members ++ rest) := by
  cases members with
  | nil => exact breaks_close level rest
  | cons member members => exact breaks_cons rfl (by decide) rfl _

theorem length_lead (level : Nat) (first : Bool) : 3 ≤ (leadOctets level first).length := by
  rw [leadOctets, encode_newLine, List.length_append, List.length_cons, List.length_replicate]
  omega

theorem length_close (level : Nat) (first : Bool) (bracket : UInt8) :
    0 < (closeOctets level first bracket).length := by
  rw [closeOctets, List.length_append]
  exact Nat.succ_pos _

/-! ### Reading the parts -/

section Parts

variable {fuel depth level : Nat} {first : Bool} {rest : List UInt8}

theorem skipSpace_close {bracket : UInt8} (visible : isSpace bracket = false) :
    skipSpace (closeOctets level first bracket ++ rest) = bracket :: rest := by
  cases first with
  | false =>
    show skipSpace ((Utf8.encode (newLine level) ++ [bracket]) ++ rest) = _
    rw [List.append_assoc, skipSpace_newLine]
    exact skipSpace_cons visible rest
  | true => exact skipSpace_cons visible rest

/-- A first item stands on a line of its own, and each other one after a comma on the next. -/
theorem readItems_lead {octet : UInt8} (begins : Begins octet) (tail : List UInt8) :
    readItems (fuel + 1) depth first (leadOctets level first ++ (octet :: tail)) =
      readItem fuel depth (octet :: tail) := by
  have line : skipSpace (Utf8.encode (newLine (level + 1)) ++ (octet :: tail)) = octet :: tail := by
    rw [skipSpace_newLine, skipSpace_cons begins.1]
  cases first with
  | true =>
    show readItems (fuel + 1) depth true (Utf8.encode (newLine (level + 1)) ++ _) = _
    rw [readItems, line]
    exact (if_neg begins.2).trans (if_pos rfl)
  | false =>
    show readItems (fuel + 1) depth false (44 :: (Utf8.encode (newLine (level + 1)) ++ _)) = _
    rw [readItems, skipSpace_cons rfl]
    dsimp only
    rw [if_neg (by decide), if_neg Bool.false_ne_true, if_pos rfl, line]
    exact if_neg begins.2

theorem readItems_close : readItems (fuel + 1) depth first (closeOctets level first 93 ++ rest) =
    .ok ([], rest) := by
  rw [readItems, skipSpace_close rfl]
  rfl

/-- One item is read before the others. -/
theorem readItem_octets {item : Value} {items : List Value} {after between : List UInt8}
    (here : readValue fuel depth after = .ok (item, between))
    (others : readItems fuel depth false between = .ok (items, rest)) :
    readItem (fuel + 1) depth after = .ok (item :: items, rest) := by
  rw [readItem, here]
  dsimp only
  rw [others]
  rfl

/-- A first member stands on a line of its own, and each other one after a comma on the next. -/
theorem readMembers_lead (before : Fields) (tail : List UInt8) :
    readMembers (fuel + 1) depth first before (leadOctets level first ++ (34 :: tail)) =
      readMember fuel depth before tail := by
  have line : skipSpace (Utf8.encode (newLine (level + 1)) ++ (34 :: tail)) = 34 :: tail := by
    rw [skipSpace_newLine, skipSpace_cons rfl]
  cases first with
  | true =>
    show readMembers (fuel + 1) depth true before (Utf8.encode (newLine (level + 1)) ++ _) = _
    rw [readMembers, line]
    rfl
  | false =>
    show readMembers (fuel + 1) depth false before
      (44 :: (Utf8.encode (newLine (level + 1)) ++ _)) = _
    rw [readMembers, skipSpace_cons rfl]
    dsimp only
    rw [if_neg (by decide), if_neg Bool.false_ne_true, if_pos rfl, line]
    rfl

theorem readMembers_close (before : Fields) :
    readMembers (fuel + 1) depth first before (closeOctets level first 125 ++ rest) =
      .ok (before, rest) := by
  rw [readMembers, skipSpace_close rfl]
  rfl

/-- A blank before a value is passed over. -/
theorem readValue_blank (tail : List UInt8) :
    readValue (fuel + 1) depth (32 :: tail) = readValue (fuel + 1) depth tail := by
  unfold readValue
  rfl

/-- One member is read before the others. -/
theorem readMember_octets {name : String} {value : Value} {before : Fields}
    {after between : List UInt8} {given : Except Stop (Fields × List UInt8)}
    (here : readValue (fuel + 1) depth after = .ok (value, between))
    (others : readMembers (fuel + 1) depth false (before.insert name value) between = given) :
    readMember (fuel + 1 + 1) depth before
      (Utf8.encode (name.toList.flatMap escapeChar ++ ['"']) ++ (58 :: 32 :: after)) = given := by
  have colon : ∀ tail, readColon (58 :: tail) = .ok ((), tail) := by
    intro tail
    rw [readColon, skipSpace_cons rfl]
    rfl
  rw [readMember, readString_quote]
  dsimp only
  rw [colon]
  dsimp only
  rw [readValue_blank, here]
  exact others

end Parts

/-! ### Reading back -/

theorem exists_succ {length fuel : Nat} (some : 0 < length) (enough : length ≤ fuel) :
    ∃ less, fuel = less + 1 :=
  ⟨fuel - 1, by omega⟩

mutual

/-- **A value that is given at a depth is read with each number as it is read from its text.** -/
theorem readValue_pretty (value : Value) {fuel depth level : Nat} {rest : List UInt8}
    (legible : value.Legible depth) (finite : ∀ double ∈ value.doubles, double.Finite)
    (breaks : Breaks rest) (enough : (Utf8.encode (value.pretty level)).length ≤ fuel) :
    readValue fuel depth (Utf8.encode (value.pretty level) ++ rest) = .ok (value.reread, rest) := by
  obtain ⟨octet, more, octets, _⟩ := pretty_head value level legible finite
  obtain ⟨fuel, rfl⟩ := exists_succ (by rw [octets]; exact Nat.succ_pos _) enough
  cases value with
  | null => exact readValue_null
  | bool value => exact readValue_bool value
  | number number =>
    cases number with
    | whole value => exact readValue_integer legible breaks
    | double value => exact readValue_double (finite value List.mem_cons_self) breaks
  | text text => exact readValue_text text
  | array items =>
    obtain ⟨deep, legible⟩ := legible
    rw [encode_array] at enough ⊢
    rw [List.cons_append, readValue, skipSpace_cons rfl]
    show (if depth ≤ 1 then _ else (readItems fuel (depth - 1) true _).map _) = _
    rw [if_neg (Nat.not_le.mpr deep),
      readItems_octets items legible finite (Nat.le_of_succ_le_succ enough)]
    rfl
  | object members =>
    obtain ⟨deep, ordered, legible⟩ := legible
    have ordered : Fields.Ordered ([] ++ members) := ordered
    rw [encode_object] at enough ⊢
    rw [List.cons_append, readValue, skipSpace_cons rfl]
    show (if depth ≤ 1 then _ else (readMembers fuel (depth - 1) true [] _).map _) = _
    rw [if_neg (Nat.not_le.mpr deep),
      readMembers_octets members ordered legible finite (Nat.le_of_succ_le_succ enough)]
    rfl

/-- Items are read up to the closing bracket. -/
theorem readItems_octets (items : List Value) {first : Bool} {fuel depth level : Nat}
    {rest : List UInt8} (legible : LegibleItems depth items)
    (finite : ∀ double ∈ itemDoubles items, double.Finite)
    (enough : (itemsOctets level first items).length ≤ fuel) :
    readItems fuel depth first (itemsOctets level first items ++ rest) =
      .ok (rereadItems items, rest) := by
  cases items with
  | nil =>
    obtain ⟨fuel, rfl⟩ := exists_succ (length_close level first 93) enough
    exact readItems_close
  | cons item items =>
    obtain ⟨here, others⟩ := legible
    obtain ⟨hereFinite, othersFinite⟩ := List.forall_mem_append.mp finite
    obtain ⟨octet, tail, octets, begins⟩ := pretty_head item (level + 1) here hereFinite
    have three := length_lead level first
    rw [itemsOctets] at enough ⊢
    simp only [List.length_append] at enough
    obtain ⟨fuel, rfl⟩ : ∃ less, fuel = less + 1 + 1 := ⟨fuel - 2, by omega⟩
    have value : readValue fuel depth (Utf8.encode (item.pretty (level + 1)) ++
        (itemsOctets level false items ++ rest)) =
          .ok (item.reread, itemsOctets level false items ++ rest) :=
      readValue_pretty item here hereFinite (breaks_items level items rest) (by omega)
    have more : readItems fuel depth false (itemsOctets level false items ++ rest) =
        .ok (rereadItems items, rest) :=
      readItems_octets items others othersFinite (by omega)
    have read := readItem_octets value more
    rw [octets] at read ⊢
    simp only [List.cons_append, List.append_assoc] at read ⊢
    rw [readItems_lead begins, read, rereadItems]

/-- Members are read up to the closing brace, and come after those before. -/
theorem readMembers_octets (members : List (String × Value)) {before : Fields} {first : Bool}
    {fuel depth level : Nat} {rest : List UInt8} (ordered : Fields.Ordered (before ++ members))
    (legible : LegibleMembers depth members)
    (finite : ∀ double ∈ memberDoubles members, double.Finite)
    (enough : (membersOctets level first members).length ≤ fuel) :
    readMembers fuel depth first before (membersOctets level first members ++ rest) =
      .ok (before ++ rereadMembers members, rest) := by
  cases members with
  | nil =>
    obtain ⟨fuel, rfl⟩ := exists_succ (length_close level first 125) enough
    rw [rereadMembers, List.append_nil]
    exact readMembers_close before
  | cons member members =>
    obtain ⟨name, value⟩ := member
    obtain ⟨here, others⟩ := legible
    obtain ⟨hereFinite, othersFinite⟩ := List.forall_mem_append.mp finite
    have last : ∀ member ∈ before, member.1 < name := fun member found =>
      (List.pairwise_append.mp ordered).2.2 member found _ List.mem_cons_self
    have three := length_lead level first
    unfold membersOctets memberOctets at enough ⊢
    simp only [List.length_cons, List.length_append] at enough
    obtain ⟨fuel, rfl⟩ : ∃ less, fuel = less + 1 + 1 + 1 := ⟨fuel - 3, by omega⟩
    have own : readValue (fuel + 1) depth (Utf8.encode (value.pretty (level + 1)) ++
        (membersOctets level false members ++ rest)) =
          .ok (value.reread, membersOctets level false members ++ rest) :=
      readValue_pretty value here hereFinite (breaks_members level members rest) (by omega)
    have more : readMembers (fuel + 1) depth false (before.insert name value.reread)
        (membersOctets level false members ++ rest) =
          .ok (before ++ rereadMembers ((name, value) :: members), rest) := by
      have kept : Fields.Ordered (before ++ [(name, value.reread)] ++ members) := by
        refine (Fields.ordered_congr ?_).mp ordered
        simp [Fields.names]
      rw [Fields.insert_last last, rereadMembers, List.append_cons before _ (rereadMembers members)]
      exact readMembers_octets members kept others othersFinite (by omega)
    simp only [List.cons_append, List.append_assoc]
    rw [readMembers_lead, readMember_octets own more]

end

/-- **An object is read from its text with each number as it is read from its text.** -/
theorem object_reread {members : Fields} (given : GivenMembers (depthLimit - 1) members) :
    object (Utf8.octets members.pretty) = .ok (rereadMembers members) := by
  have octets : Utf8.octets members.pretty = 123 :: membersOctets 0 true members := by
    rw [Utf8.octets, Fields.pretty, String.toList_ofList, encode_object]
  have enough : (membersOctets 0 true members).length ≤
      fuelFor (123 :: membersOctets 0 true members) := by
    rw [fuelFor, List.length_cons]
    omega
  have read : readMembers (fuelFor (123 :: membersOctets 0 true members)) (depthLimit - 1) true []
      (membersOctets 0 true members ++ []) = .ok (rereadMembers members, []) :=
    readMembers_octets members given.ordered given.legible given.finite enough
  rw [List.append_nil] at read
  rw [object, octets, readObject, skipSpace_cons rfl]
  dsimp only
  rw [if_pos rfl, read]
  rfl

/-- **An object of exact values is read back.** -/
theorem rereadMembers_of_exact {members : Fields} (exact : ExactMembers members) :
    rereadMembers members = members := by
  have none := memberDoubles_of_exact members exact
  exact rereadMembers_of_steady members (none ▸ List.forall_mem_nil _)

end TouchDispatch.Json
