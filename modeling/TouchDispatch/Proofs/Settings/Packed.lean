/-
**Packed settings are read as they were written.**

* `fields_free`, `fields_append`: the parts of a text around separators that do not occur in them;
* `trim_visible`: a text without blanks is left alone by trimming;
* `SliderMap.Fits`, `SliderMap.read_fits`: the mappings that a setting can stand for;
* `SliderMap.read_setting`, `DozeFeatures.read_setting`: **the text of a mapping and of the switches
  is read as that mapping and as these switches.**
-/

import TouchDispatch.Proofs.Text.Decimals
import TouchDispatch.Settings.Packed

namespace TouchDispatch

open TouchDispatch.Text

/-! ### Fields and blanks -/

section Fields

variable {separator : Char} {text : List Char}

/-- A text in which the separator does not occur is one field. -/
theorem fields_free (free : separator ∉ text) : fields separator text = [text] := by
  induction text with
  | nil => rfl
  | cons c rest ih =>
    obtain ⟨apart, others⟩ : separator ≠ c ∧ separator ∉ rest := by simpa using free
    rw [fields, if_neg (Ne.symm apart), ih others]

/-- A text in which the separator does not occur is the field before it. -/
theorem fields_append (free : separator ∉ text) (rest : List Char) :
    fields separator (text ++ separator :: rest) = text :: fields separator rest := by
  induction text with
  | nil => exact if_pos rfl
  | cons c more ih =>
    obtain ⟨apart, others⟩ : separator ≠ c ∧ separator ∉ more := by simpa using free
    rw [List.cons_append, fields, if_neg (Ne.symm apart), ih others]

theorem dropWhile_visible (visible : ∀ c ∈ text, isBlank c = false) :
    text.dropWhile isBlank = text := by
  cases text with
  | nil => rfl
  | cons c rest => rw [List.dropWhile_cons, visible c List.mem_cons_self, if_neg Bool.false_ne_true]

/-- A text without blanks is left alone by trimming. -/
theorem trim_visible (visible : ∀ c ∈ text, isBlank c = false) : trim text = text := by
  unfold trim trimStart trimEnd
  rw [dropWhile_visible visible,
    dropWhile_visible fun c member => visible c (List.mem_reverse.mp member), List.reverse_reverse]

end Fields

/-! ### The slider -/

namespace SliderMap

/-- A mapping of which a setting can consist. -/
def Fits (map : SliderMap) : Prop :=
  ∀ position, Decimal.FitsInt32 (map.modeAt position)

/-- A digit or a minus sign is neither a blank nor a comma. -/
theorem plain_of_digit {c : Char} (plain : Decimal.isDigit c = true ∨ c = '-') :
    isBlank c = false ∧ c ≠ ',' := by
  rcases plain with digit | rfl
  · obtain ⟨least, greatest⟩ : 48 ≤ c.toNat ∧ c.toNat ≤ 57 := by
      simpa [Decimal.isDigit, Char.le_def, UInt32.le_iff_toNat_le] using digit
    refine ⟨?_, ?_⟩
    · simp [isBlank]
      omega
    · rintro rfl
      exact absurd least (by decide)
  · decide

theorem readId?_integer {n : Int} (fits : Decimal.FitsInt32 n) :
    readId? (Decimal.integer n) = some n := by
  unfold readId?
  rw [trim_visible fun c member => (plain_of_digit (Decimal.integer_all n c member)).1]
  exact Decimal.int32?_integer fits

theorem comma_not_mem_integer (n : Int) : ',' ∉ Decimal.integer n := fun member =>
  (plain_of_digit (Decimal.integer_all n _ member)).2 rfl

/-- **The text of a mapping is read as that mapping.** -/
theorem read_setting {map : SliderMap} (fits : map.Fits) : read map.setting = map := by
  have split : fields ',' map.setting.toList =
      [Decimal.integer map.top, Decimal.integer map.center, Decimal.integer map.bottom] := by
    unfold setting
    rw [String.toList_ofList, List.append_assoc, List.cons_append,
      fields_append (comma_not_mem_integer _), fields_append (comma_not_mem_integer _),
      fields_free (comma_not_mem_integer _)]
  have top : readId? (Decimal.integer map.top) = some map.top := readId?_integer (fits .top)
  have center : readId? (Decimal.integer map.center) = some map.center :=
    readId?_integer (fits .center)
  have bottom : readId? (Decimal.integer map.bottom) = some map.bottom :=
    readId?_integer (fits .bottom)
  unfold read
  rw [split]
  dsimp only
  rw [top, center, bottom]

/-- Every setting stands for a mapping of 32-bit integers. -/
theorem read_fits (setting : String) : (read setting).Fits := by
  have default : default.Fits := by
    intro position
    cases position <;> decide
  unfold read
  split
  · split
    · next _ top center bottom =>
      intro position
      cases position with
      | top => exact Decimal.fits_of_int32? top
      | center => exact Decimal.fits_of_int32? center
      | bottom => exact Decimal.fits_of_int32? bottom
    · exact default
  · exact default

end SliderMap

/-! ### The switches -/

/-- **The text of the switches is read as these switches.** -/
theorem DozeFeatures.read_setting (features : DozeFeatures) : read features.setting = features := by
  obtain ⟨wave, pocket, tilt⟩ := features
  cases wave <;> cases pocket <;> cases tilt <;> decide

end TouchDispatch
