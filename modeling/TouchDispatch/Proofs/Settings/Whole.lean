/-
**Packed settings are read whole or not at all.**

* `SliderMap.Written`: a setting that is the text of three numbers;
* `SliderMap.read_cases`: what is read is what is written, or the default if nothing is;
* `DozeFeatures.ReadsTrue`: a field that turns its switch on;
* `DozeFeatures.isOn_read_iff`: the blanks around the whole setting make no difference;
* `packed_whole`: **three numbers are read, or the default is taken, and a switch is on exactly if
  it is one of three and says so.**
-/

import TouchDispatch.Proofs.Settings.Shown
import TouchDispatch.Proofs.Text.Grammar

namespace TouchDispatch

open TouchDispatch.Text

/-! ### The slider -/

namespace SliderMap

/-- A setting is the text of three numbers with commas between them, blanks around each aside. -/
def Written (setting : String) (map : SliderMap) : Prop :=
  ∃ top center bottom, Three ',' setting.toList top center bottom ∧
    Decimal.Reads top map.top ∧ Decimal.Reads center map.center ∧ Decimal.Reads bottom map.bottom

variable {setting : String} {map : SliderMap}

theorem readId?_eq_some_iff {field : List Char} {id : Int} :
    readId? field = some id ↔ Decimal.Reads field id :=
  Decimal.int32?_trim_iff

/-- **Three numbers are read as they are written.** -/
theorem read_of_written (written : Written setting map) : read setting = map := by
  obtain ⟨top, center, bottom, three, first, second, third⟩ := written
  unfold read
  rw [fields_eq_three_iff.mpr three]
  dsimp only
  rw [readId?_eq_some_iff.mpr first, readId?_eq_some_iff.mpr second,
    readId?_eq_some_iff.mpr third]

/-- **What is read is what is written, or the default if no three numbers are.** No part of a
setting is read alone. -/
theorem read_cases (setting : String) :
    Written setting (read setting) ∨ (∀ map, ¬ Written setting map) ∧ read setting = default := by
  by_cases written : ∃ map, Written setting map
  · obtain ⟨map, written⟩ := written
    rw [read_of_written written]
    exact Or.inl written
  refine Or.inr ⟨not_exists.mp written, ?_⟩
  unfold read
  split
  · next top center bottom split =>
    split
    · next x y z first second third =>
      have three : Written setting ⟨x, y, z⟩ :=
        ⟨top, center, bottom, fields_eq_three_iff.mp split, readId?_eq_some_iff.mp first,
          readId?_eq_some_iff.mp second, readId?_eq_some_iff.mp third⟩
      exact absurd ⟨_, three⟩ written
    · rfl
  · rfl

end SliderMap

/-! ### The switches -/

/-- The movements that wake the screen. -/
inductive Movement where
  | wave
  | pocket
  | tilt
deriving DecidableEq

/-- What belongs to a movement, of three things in the order in which the switches are packed. -/
def Movement.pick {α : Type} (wave pocket tilt : α) : Movement → α
  | .wave => wave
  | .pocket => pocket
  | .tilt => tilt

namespace DozeFeatures

/-- Whether the switch of a movement is on. -/
def isOn (features : DozeFeatures) (movement : Movement) : Bool :=
  movement.pick features.wave features.pocket features.tilt

/-- A field that turns its switch on: `true` in letters of either case, blanks around it aside. -/
def ReadsTrue (field : List Char) : Prop :=
  ∃ core, Trims field core ∧ core.map Char.toLower = "true".toList

variable {setting : String} {text wave pocket tilt : List Char}

theorem readSwitch_iff {field : List Char} : readSwitch field = true ↔ ReadsTrue field := by
  unfold readSwitch sameLetters
  rw [beq_iff_eq]
  constructor
  · exact fun same => ⟨_, trim_eq_iff.mp rfl, same⟩
  · rintro ⟨core, trims, same⟩
    rw [trim_eq_iff.mpr trims]
    exact same

/-- Blanks around three fields are blanks around the first and the last of them. -/
theorem three_around (three : Three ':' (trim text) wave pocket tilt) :
    ∃ first last, Three ':' text first pocket last := by
  have colon : ¬ isBlank ':' = true := by decide
  obtain ⟨before, after, split, blanksBefore, blanksAfter⟩ :=
    (trim_eq_iff.mp (rfl : trim text = _)).around
  obtain ⟨joined, freeWave, freePocket, freeTilt⟩ := three
  refine ⟨before ++ wave, tilt ++ after, ⟨?_, fun inside => ?_, freePocket, fun inside => ?_⟩⟩
  · rw [split, joined]
    simp
  · rcases List.mem_append.mp inside with here | here
    · exact colon (blanksBefore _ here)
    · exact freeWave here
  · rcases List.mem_append.mp inside with here | here
    · exact freeTilt here
    · exact colon (blanksAfter _ here)

/-- Trimming three fields trims the first at its beginning and the last at its end. -/
theorem three_trim (three : Three ':' text wave pocket tilt) :
    Three ':' (trim text) (trimStart wave) pocket (trimEnd tilt) := by
  have colon : isBlank ':' = false := by decide
  obtain ⟨rfl, freeWave, freePocket, freeTilt⟩ := three
  obtain ⟨before, starts, blanksBefore, first⟩ := trimStart_spec wave
  obtain ⟨after, ends, blanksAfter, last⟩ := trimEnd_spec tilt
  generalize trimStart wave = start at starts first
  generalize trimEnd tilt = final at ends last
  subst starts ends
  refine ⟨trim_eq_iff.mpr ⟨⟨before, after, by simp, blanksBefore, blanksAfter⟩, ?_, ?_⟩,
    fun inside => freeWave (List.mem_append_right _ inside), freePocket,
    fun inside => freeTilt (List.mem_append_left _ inside)⟩
  · intro c rest begins
    cases start with
    | nil =>
      obtain ⟨rfl, _⟩ := List.cons.inj begins
      exact colon
    | cons d more =>
      obtain ⟨rfl, _⟩ := List.cons.inj begins
      exact first _ more rfl
  · intro c rest closes
    rcases List.eq_nil_or_concat final with rfl | ⟨more, d, rfl⟩
    · have same : (start ++ ':' :: pocket) ++ [':'] = rest ++ [c] := by simpa using closes
      obtain ⟨_, same⟩ := List.append_inj' same rfl
      obtain rfl := List.singleton_inj.mp same
      exact colon
    · rw [List.concat_eq_append] at closes last
      have same : (start ++ ':' :: (pocket ++ ':' :: more)) ++ [d] = rest ++ [c] := by
        simpa using closes
      obtain ⟨_, same⟩ := List.append_inj' same rfl
      obtain rfl := List.singleton_inj.mp same
      exact last _ more rfl

/-- **Three fields are read one by one, whatever blanks there are around the setting.** -/
theorem read_of_three (three : Three ':' setting.toList wave pocket tilt) :
    read setting = ⟨readSwitch wave, readSwitch pocket, readSwitch tilt⟩ := by
  unfold read
  rw [fields_eq_three_iff.mpr (three_trim three)]
  dsimp only [readSwitch]
  rw [trim_trimStart, trim_trimEnd]

/-- With any other number of fields all switches are off. -/
theorem read_of_not_three
    (other : ∀ wave pocket tilt, ¬ Three ':' setting.toList wave pocket tilt) :
    read setting = {} := by
  unfold read
  split
  · next split =>
    obtain ⟨_, _, three⟩ := three_around (fields_eq_three_iff.mp split)
    exact absurd three (other _ _ _)
  · rfl

/-- **A switch is on exactly if it is one of three and its field says so.** -/
theorem isOn_read_iff (setting : String) (movement : Movement) :
    (read setting).isOn movement = true ↔
      ∃ wave pocket tilt, Three ':' setting.toList wave pocket tilt ∧
        ReadsTrue (movement.pick wave pocket tilt) := by
  have picked : ∀ wave pocket tilt, Three ':' setting.toList wave pocket tilt →
      ((read setting).isOn movement = true ↔ ReadsTrue (movement.pick wave pocket tilt)) := by
    intro wave pocket tilt three
    rw [read_of_three three]
    cases movement with
    | wave | pocket | tilt => exact readSwitch_iff
  constructor
  · intro on
    by_cases three : ∃ wave pocket tilt, Three ':' setting.toList wave pocket tilt
    · obtain ⟨wave, pocket, tilt, three⟩ := three
      exact ⟨wave, pocket, tilt, three, (picked wave pocket tilt three).mp on⟩
    · simp only [not_exists] at three
      rw [read_of_not_three three] at on
      cases movement with
      | wave | pocket | tilt => cases on
  · rintro ⟨wave, pocket, tilt, three, yes⟩
    exact (picked wave pocket tilt three).mpr yes

end DozeFeatures

/-! ### Both -/

/-- **Packed settings are read whole or not at all.** A setting that is the text of three 32-bit
integers with commas between them is read as these, and every other one as the default. A switch is
on exactly if there are three fields between colons and its own reads `true`. What is written for
any three 32-bit integers is read as these three. -/
theorem packed_whole (setting : String) :
    (∀ map, SliderMap.Written setting map → SliderMap.read setting = map) ∧
    ((∀ map, ¬ SliderMap.Written setting map) → SliderMap.read setting = ⟨5, 3, 0⟩) ∧
    (∀ movement : Movement, (DozeFeatures.read setting).isOn movement = true ↔
      ∃ wave pocket tilt, Three ':' setting.toList wave pocket tilt ∧
        DozeFeatures.ReadsTrue (movement.pick wave pocket tilt)) ∧
    ∀ map : SliderMap, map.Fits → SliderMap.read map.setting = map := by
  refine ⟨fun map => SliderMap.read_of_written, fun unwritten => ?_,
    DozeFeatures.isOn_read_iff setting, fun map => SliderMap.read_setting⟩
  rcases SliderMap.read_cases setting with written | ⟨_, default⟩
  · exact absurd written (unwritten _)
  · exact default

/-- Blanks and signs are taken, a number that is too great by one is not, and the least and the
greatest number are read as they are written. -/
theorem packed_whole_at_limits :
    let widest : SliderMap := ⟨-2147483648, 2147483647, 0⟩
    SliderMap.Written "\t+007 ,-0,\u00a02147483647" ⟨7, 0, 2147483647⟩ ∧
      SliderMap.read "\t+007 ,-0,\u00a02147483647" = ⟨7, 0, 2147483647⟩ ∧
      (∀ map, ¬ SliderMap.Written "1,2147483648,2" map) ∧
      SliderMap.read "1,2147483648,2" = ⟨5, 3, 0⟩ ∧
      widest.Fits ∧ SliderMap.read widest.setting = widest := by
  intro widest
  have written : SliderMap.Written "\t+007 ,-0,\u00a02147483647" ⟨7, 0, 2147483647⟩ := by
    refine ⟨['\t', '+', '0', '0', '7', ' '], ['-', '0'], _, fields_eq_three_iff.mp rfl, ?_⟩
    simp only [← SliderMap.readId?_eq_some_iff]
    decide +kernel
  have unwritten : ∀ map, ¬ SliderMap.Written "1,2147483648,2" map := by
    rintro map ⟨top, center, bottom, three, _, tooGreat, _⟩
    obtain ⟨_, same⟩ := List.cons.inj (fields_eq_three_iff.mpr three)
    obtain ⟨rfl, _⟩ := List.cons.inj same
    exact absurd (SliderMap.readId?_eq_some_iff.mpr tooGreat)
      (ne_of_eq_of_ne (by decide +kernel : _ = none) nofun)
  have fits : widest.Fits := by
    intro position
    cases position with
    | top | center | bottom => decide
  exact ⟨written, (packed_whole _).1 _ written, unwritten, (packed_whole _).2.1 unwritten, fits,
    (packed_whole "").2.2.2 widest fits⟩

end TouchDispatch
