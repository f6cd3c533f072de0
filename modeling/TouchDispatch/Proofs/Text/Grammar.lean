/-
**What texts are read as, said without the readers.**

* `Decimal.Denotes`: the texts of a signed 32-bit integer, by their grammar;
* `Decimal.int32?_eq_some_iff`: **exactly these texts are read, each as its number**;
* `Trims`, `trim_eq_iff`: what is left of a text without the blanks around it;
* `Decimal.Reads`: the texts of a number with blanks around them;
* `Three`, `fields_eq_three_iff`: a text of exactly three fields.
-/

import Mathlib.Data.List.DropRight
import Mathlib.Data.Nat.Digits.Defs
import TouchDispatch.Proofs.Settings.Packed

namespace TouchDispatch.Text

/-! ### Numbers -/

namespace Decimal

/-- One or more ASCII digits. -/
structure Run (digits : List Char) : Prop where
  some : digits ≠ []
  ascii : ∀ c ∈ digits, '0' ≤ c ∧ c ≤ '9'

/-- The number that digits stand for, the most significant one first. -/
def worth (digits : List Char) : Nat :=
  Nat.ofDigits 10 (digits.reverse.map digitValue)

/-- The texts of a signed 32-bit integer: digits with at most one sign before them, and a number
that is in range. -/
inductive Denotes : List Char → Int → Prop
  | plain {digits : List Char} (run : Run digits) (fits : FitsInt32 (worth digits)) :
      Denotes digits (worth digits)
  | plus {digits : List Char} (run : Run digits) (fits : FitsInt32 (worth digits)) :
      Denotes ('+' :: digits) (worth digits)
  | minus {digits : List Char} (run : Run digits) (fits : FitsInt32 (-(worth digits : Int))) :
      Denotes ('-' :: digits) (-(worth digits : Int))

variable {text digits : List Char} {n : Int}

theorem value_eq_worth (digits : List Char) : value digits = worth digits := by
  induction digits using List.reverseRec with
  | nil => rfl
  | append_singleton digits c ih =>
    rw [value_concat, ih, worth, worth, List.reverse_concat, List.map_cons, Nat.ofDigits_cons]
    exact Nat.add_comm _ _

theorem all_isDigit_iff : digits.all isDigit = true ↔ ∀ c ∈ digits, '0' ≤ c ∧ c ≤ '9' := by
  simp [isDigit]

theorem natural?_eq_some_iff {n : Nat} :
    natural? text = some n ↔ Run text ∧ worth text = n := by
  unfold natural?
  rw [← value_eq_worth]
  constructor
  · intro read
    split at read
    · next digits =>
      obtain ⟨some, ascii⟩ := Bool.and_eq_true_iff.mp digits
      refine ⟨⟨?_, all_isDigit_iff.mp ascii⟩, Option.some.inj read⟩
      rintro rfl
      cases some
    · cases read
  · rintro ⟨⟨some, ascii⟩, rfl⟩
    refine if_pos ?_
    rw [all_isDigit_iff.mpr ascii, List.isEmpty_eq_false_iff.mpr some]
    rfl

theorem inInt32?_eq_some_iff {m : Int} : inInt32? m = some n ↔ FitsInt32 m ∧ m = n := by
  unfold inInt32?
  split
  · next fits => exact ⟨fun same => ⟨fits, Option.some.inj same⟩, fun same => congrArg some same.2⟩
  · next wide => exact iff_of_false nofun fun fits => wide fits.1

/-- What follows the sign is read as a number and put in range. -/
theorem bind_natural?_iff (signed : Nat → Int) :
    ((natural? digits).bind fun m => inInt32? (signed m)) = some n ↔
      Run digits ∧ FitsInt32 (signed (worth digits)) ∧ signed (worth digits) = n := by
  simp only [Option.bind_eq_some_iff, natural?_eq_some_iff, inInt32?_eq_some_iff]
  constructor
  · rintro ⟨_, ⟨run, rfl⟩, fits, same⟩
    exact ⟨run, fits, same⟩
  · rintro ⟨run, fits, same⟩
    exact ⟨_, ⟨run, rfl⟩, fits, same⟩

/-- **Exactly the texts of a signed 32-bit integer are read, each as its number.** -/
theorem int32?_eq_some_iff : int32? text = some n ↔ Denotes text n := by
  constructor
  · intro read
    unfold int32? at read
    split at read
    all_goals obtain ⟨run, fits, rfl⟩ := (bind_natural?_iff _).mp read
    · exact .plus run fits
    · exact .minus run fits
    · exact .plain run fits
  · intro denotes
    cases denotes with
    | plain run fits =>
      rw [int32?_of_digits (all_isDigit_iff.mpr run.ascii)]
      exact (bind_natural?_iff fun m => m).mpr ⟨run, fits, rfl⟩
    | plus run fits => exact (bind_natural?_iff fun m => m).mpr ⟨run, fits, rfl⟩
    | minus run fits => exact (bind_natural?_iff fun m => -m).mpr ⟨run, fits, rfl⟩

end Decimal

/-! ### Blanks -/

/-- `core` is what is left of a text without the blanks at its two ends. -/
structure Trims (text core : List Char) : Prop where
  around : ∃ before after, text = before ++ core ++ after ∧
    (∀ c ∈ before, isBlank c = true) ∧ ∀ c ∈ after, isBlank c = true
  first : ∀ c rest, core = c :: rest → isBlank c = false
  last : ∀ c rest, core = rest ++ [c] → isBlank c = false

section Blanks

variable {text core before after : List Char}

theorem trimStart_append (blanks : ∀ c ∈ before, isBlank c = true) (rest : List Char) :
    trimStart (before ++ rest) = trimStart rest :=
  List.dropWhile_append_of_pos blanks

theorem trimEnd_append (blanks : ∀ c ∈ after, isBlank c = true) (rest : List Char) :
    trimEnd (rest ++ after) = trimEnd rest := by
  unfold trimEnd
  rw [List.reverse_append, List.dropWhile_append_of_pos fun c member =>
    blanks c (List.mem_reverse.mp member)]

/-- Nothing but blanks is taken away from the beginning, and none is left there. -/
theorem trimStart_spec (text : List Char) :
    ∃ before, text = before ++ trimStart text ∧ (∀ c ∈ before, isBlank c = true) ∧
      ∀ c rest, trimStart text = c :: rest → isBlank c = false := by
  refine ⟨text.takeWhile isBlank, List.takeWhile_append_dropWhile.symm,
    fun c member => List.mem_takeWhile_imp member, fun c rest begins => ?_⟩
  have first := List.head?_dropWhile_not isBlank text
  change text.dropWhile isBlank = _ at begins
  rw [begins] at first
  exact first

/-- Nor from the end. -/
theorem trimEnd_spec (text : List Char) :
    ∃ after, text = trimEnd text ++ after ∧ (∀ c ∈ after, isBlank c = true) ∧
      ∀ c rest, trimEnd text = rest ++ [c] → isBlank c = false := by
  obtain ⟨before, split, blanks, first⟩ := trimStart_spec text.reverse
  refine ⟨before.reverse, ?_, fun c member => blanks c (List.mem_reverse.mp member), ?_⟩
  · have turned := congrArg List.reverse split
    rwa [List.reverse_reverse, List.reverse_append] at turned
  · intro c rest ends
    refine first c rest.reverse ?_
    have turned := congrArg List.reverse ends
    change (trimStart text.reverse).reverse.reverse = _ at turned
    rwa [List.reverse_reverse, List.reverse_concat] at turned

/-- **Trimming takes away the blanks at the two ends, and nothing else.** -/
theorem trim_eq_iff : trim text = core ↔ Trims text core := by
  constructor
  · rintro rfl
    obtain ⟨before, starts, blanksBefore, first⟩ := trimStart_spec text
    obtain ⟨after, ends, blanksAfter, last⟩ := trimEnd_spec (trimStart text)
    refine ⟨⟨before, after, ?_, blanksBefore, blanksAfter⟩, fun c rest begins => ?_, last⟩
    · rw [List.append_assoc]
      exact starts.trans (congrArg (before ++ ·) ends)
    · unfold trim at begins
      rw [begins, List.cons_append] at ends
      exact first c _ ends
  · rintro ⟨⟨before, after, rfl, blanksBefore, blanksAfter⟩, first, last⟩
    unfold trim
    rw [List.append_assoc, trimStart_append blanksBefore]
    cases core with
    | nil =>
      rw [List.nil_append, ← List.append_nil after, trimStart_append blanksAfter]
      rfl
    | cons c rest =>
      have starts : trimStart (c :: rest ++ after) = c :: rest ++ after := by
        rw [trimStart, List.cons_append, List.dropWhile_cons, first c rest rfl]
        rfl
      rw [starts, trimEnd_append blanksAfter]
      rcases List.eq_nil_or_concat (c :: rest) with empty | ⟨front, final, split⟩
      · cases empty
      · rw [List.concat_eq_append] at split
        rw [split]
        exact List.rdropWhile_concat_neg _ _ _ (by rw [last final front split]; exact nofun)

theorem trim_before (blanks : ∀ c ∈ before, isBlank c = true) (rest : List Char) :
    trim (before ++ rest) = trim rest :=
  congrArg trimEnd (trimStart_append blanks rest)

theorem trim_after (blanks : ∀ c ∈ after, isBlank c = true) (rest : List Char) :
    trim (rest ++ after) = trim rest := by
  obtain ⟨⟨before, behind, split, blanksBefore, blanksBehind⟩, first, last⟩ :=
    trim_eq_iff.mp (rfl : trim rest = _)
  refine trim_eq_iff.mpr ⟨⟨before, behind ++ after, ?_, blanksBefore, ?_⟩, first, last⟩
  · rw [← List.append_assoc, ← split]
  · exact List.forall_mem_append.mpr ⟨blanksBehind, blanks⟩

theorem trim_trimStart (text : List Char) : trim (trimStart text) = trim text := by
  obtain ⟨before, split, blanks, _⟩ := trimStart_spec text
  have same := trim_before blanks (trimStart text)
  rwa [← split, eq_comm] at same

theorem trim_trimEnd (text : List Char) : trim (trimEnd text) = trim text := by
  obtain ⟨after, split, blanks, _⟩ := trimEnd_spec text
  have same := trim_after blanks (trimEnd text)
  rwa [← split, eq_comm] at same

end Blanks

/-- The texts of a signed 32-bit integer with blanks around them. -/
def Decimal.Reads (text : List Char) (n : Int) : Prop :=
  ∃ core, Trims text core ∧ Decimal.Denotes core n

/-- **They are what is read as a number once the blanks are gone.** -/
theorem Decimal.int32?_trim_iff {text : List Char} {n : Int} :
    Decimal.int32? (trim text) = some n ↔ Decimal.Reads text n := by
  rw [Decimal.int32?_eq_some_iff]
  constructor
  · exact fun denotes => ⟨_, trim_eq_iff.mp rfl, denotes⟩
  · rintro ⟨core, trims, denotes⟩
    rwa [trim_eq_iff.mpr trims]

/-! ### Fields -/

/-- A text consists of three fields between separators, which do not occur in the fields. -/
structure Three (separator : Char) (text first second third : List Char) : Prop where
  joined : text = first ++ separator :: (second ++ separator :: third)
  first : separator ∉ first
  second : separator ∉ second
  third : separator ∉ third

section Fields

variable {separator : Char} {text first : List Char} {others : List (List Char)}

theorem fields_ne_nil (separator : Char) (text : List Char) : fields separator text ≠ [] := by
  cases text with
  | nil => exact List.cons_ne_nil _ _
  | cons c rest =>
    rw [fields]
    split
    · exact List.cons_ne_nil _ _
    · split
      · exact List.cons_ne_nil _ _
      · exact List.cons_ne_nil _ _

/-- The first field goes up to the first separator, and the others follow it. -/
theorem fields_eq_cons (split : fields separator text = first :: others) :
    separator ∉ first ∧ ((text = first ∧ others = []) ∨
      ∃ rest, text = first ++ separator :: rest ∧ fields separator rest = others) := by
  induction text generalizing first with
  | nil =>
    cases split
    exact ⟨List.not_mem_nil, Or.inl ⟨rfl, rfl⟩⟩
  | cons c rest ih =>
    rw [fields] at split
    by_cases here : c = separator
    · rw [if_pos here] at split
      obtain ⟨rfl, rfl⟩ := List.cons.inj split
      exact ⟨List.not_mem_nil, Or.inr ⟨rest, congrArg (· :: rest) here, rfl⟩⟩
    · rw [if_neg here] at split
      obtain ⟨field, more, whole⟩ := List.exists_cons_of_ne_nil (fields_ne_nil separator rest)
      rw [whole] at split
      obtain ⟨rfl, rfl⟩ := List.cons.inj split
      obtain ⟨free, last⟩ := ih whole
      refine ⟨List.not_mem_cons_of_ne_of_not_mem (Ne.symm here) free, ?_⟩
      rcases last with ⟨rfl, none⟩ | ⟨after, rfl, behind⟩
      · exact Or.inl ⟨rfl, none⟩
      · exact Or.inr ⟨after, rfl, behind⟩

/-- **A text is split into three fields exactly if it consists of them.** -/
theorem fields_eq_three_iff {second third : List Char} :
    fields separator text = [first, second, third] ↔ Three separator text first second third := by
  constructor
  · intro split
    obtain ⟨freeFirst, ⟨_, none⟩ | ⟨afterFirst, joined, split⟩⟩ := fields_eq_cons split
    · cases none
    obtain ⟨freeSecond, ⟨_, none⟩ | ⟨afterSecond, joinedSecond, split⟩⟩ := fields_eq_cons split
    · cases none
    obtain ⟨freeThird, ⟨last, _⟩ | ⟨afterThird, _, more⟩⟩ := fields_eq_cons split
    · subst last joinedSecond
      exact ⟨joined, freeFirst, freeSecond, freeThird⟩
    · exact absurd more (fields_ne_nil separator afterThird)
  · rintro ⟨rfl, first, second, third⟩
    rw [fields_append first, fields_append second, fields_free third]

end Fields

end TouchDispatch.Text
