/-
**What the settings mean depends only on what the store calls the same.**

The store takes a new value that it calls the same as the old one for no change and tells nobody.
Two values that it calls the same may still differ in one way: one may be the floating-point zero
and the other its negative. So whoever keeps a copy of a setting is safe only if both zeros mean the
same there:

* `flag_congr`: a setting as a switch;
* `word_congr`: a setting as text, the texts of the two zeros aside;
* `doze_congr`, `isOn_congr`: the switches of the sensors, and whether a channel does anything.
-/

import TouchDispatch.Panel.Switches
import TouchDispatch.Proofs.Settings.Deed

namespace TouchDispatch.Settings

open TouchDispatch.Json TouchDispatch.Number

/-- The texts of the two floating-point zeros. -/
def IsZeroText (text : String) : Prop :=
  text = "0.0" ∨ text = "-0.0"

theorem isZeroText_of_magnitude {number : Binary64} (zero : number.magnitude = 0) :
    IsZeroText (String.ofList (layout.text number)) := by
  obtain ⟨negative, magnitude⟩ := number
  obtain rfl : magnitude = 0 := zero
  have digits : Text.Decimal.digits 0 = ['0'] := by
    rw [Text.Decimal.digits, if_pos (by omega)]
    rfl
  have shortest : Binary64.shortest 0 = (0, 0) := by
    rw [Binary64.shortest, if_pos rfl]
  unfold Layout.text
  rw [shortest]
  dsimp only
  rw [digits]
  cases negative with
  | false => exact Or.inl rfl
  | true => exact Or.inr rfl

/-- Floating-point numbers that the store calls the same are equal, or both are zeros. -/
theorem eq_or_zero_of_same {first second : Binary64} (same : first.same second = true) :
    first = second ∨ first.magnitude = 0 ∧ second.magnitude = 0 := by
  obtain ⟨firstSign, firstSize⟩ := first
  obtain ⟨secondSign, secondSize⟩ := second
  simp only [Binary64.same, Bool.and_eq_true, Bool.or_eq_true, beq_iff_eq] at same
  obtain ⟨rfl, sign | zero⟩ := same
  · exact Or.inl (by rw [sign])
  · exact Or.inr ⟨zero, zero⟩

section Same

variable {name : String} {old new : Table}

/-- **Both zeros say nothing about a switch, as does any floating-point number.** -/
theorem flag_congr (same : SameAt name old new) (unset : Bool) :
    flag old name unset = flag new name unset := by
  unfold flag
  rcases same with equal | ⟨before, after, foundBefore, foundAfter, same⟩
  · rw [equal]
  · rw [foundBefore, foundAfter]
    cases before <;> cases after <;> try cases same
    case bool.bool first second =>
      exact beq_iff_eq.mp same
    case number.number first second =>
      cases first <;> cases second <;> try cases same
      case whole.whole first second =>
        rw [beq_iff_eq.mp same]
      case double.double first second => rfl
    case text.text first second =>
      rw [beq_iff_eq.mp same]
    all_goals rfl

/-- **The same value has the same text, or both texts are those of zeros.** -/
theorem word_congr (same : SameAt name old new) (unset : String) :
    word old name unset = word new name unset ∨
      IsZeroText (word old name unset) ∧ IsZeroText (word new name unset) := by
  unfold word
  rcases same with equal | ⟨before, after, foundBefore, foundAfter, same⟩
  · exact Or.inl (by rw [equal])
  · rw [foundBefore, foundAfter]
    cases before <;> cases after <;> try cases same
    case bool.bool first second =>
      exact Or.inl (by rw [beq_iff_eq.mp same])
    case number.number first second =>
      cases first <;> cases second <;> try cases same
      case whole.whole first second =>
        exact Or.inl (by rw [beq_iff_eq.mp same])
      case double.double first second =>
        rcases eq_or_zero_of_same same with rfl | ⟨zero, otherZero⟩
        · exact Or.inl rfl
        · exact Or.inr ⟨isZeroText_of_magnitude zero, isZeroText_of_magnitude otherZero⟩
    case text.text first second =>
      exact Or.inl (beq_iff_eq.mp same)
    all_goals exact Or.inl rfl

end Same

theorem keysDisabled_congr {old new : Table} (same : SameAt keysDisabledName old new) :
    keysDisabled old = keysDisabled new :=
  flag_congr same false

theorem proximityCheck_congr {old new : Table} (same : SameAt proximityCheckName old new) :
    proximityCheck old = proximityCheck new :=
  flag_congr same true

/-- The text of a zero has no colons, so all switches are off. -/
theorem doze_congr {old new : Table} (same : SameAt dozeName old new) : doze old = doze new := by
  have off : ∀ text, IsZeroText text → DozeFeatures.read text = {} := by
    rintro text (rfl | rfl)
    · decide
    · decide
  unfold doze
  rcases word_congr same "" with equal | ⟨zero, otherZero⟩
  · rw [equal]
  · rw [off _ zero, off _ otherZero]

/-- The text of a zero is the component of some app, so the channel does something. -/
theorem isOn_congr {old new : Table} {channel : Channel}
    (same : SameAt (bindingName channel) old new) :
    Switches.isOn old channel = Switches.isOn new channel := by
  have on : ∀ text, IsZeroText text →
      ((Binding.read? text).getD (Binding.default channel)).isEnabled = true := by
    rintro text (rfl | rfl)
    · rfl
    · rfl
  unfold Switches.isOn binding
  rcases word_congr same "" with equal | ⟨zero, otherZero⟩
  · rw [equal]
  · rw [on _ zero, on _ otherZero]

end TouchDispatch.Settings
