/-
**The torch is the one with the least name, in whatever order the directory is read.**

* `contains_iff`: a text contains what occurs in it;
* `TorchLed.Candidate`: the entries of a directory that can be the torch;
* `TorchLed.least?_eq_some_iff`: the least of some names, by what it is;
* `choose_eq_some_iff`, `choose_eq_none_iff`: **the candidate with the least octets is chosen, if
  there is one**;
* `choose_eq_find`: as if all names were sorted and the first one with a brightness were taken;
* `torch_chosen`: **so the order of the entries makes no difference.**
-/

import TouchDispatch.Proofs.Text.Octets
import TouchDispatch.Shell.TorchLed

namespace TouchDispatch

open TouchDispatch.Text

theorem Text.contains_iff {part text : List Char} : contains part text = true ↔ part <:+: text := by
  induction text with
  | nil => rw [contains, List.isEmpty_iff, List.infix_nil]
  | cons c rest ih =>
    rw [contains, Bool.or_eq_true, List.isPrefixOf_iff_prefix, ih, List.infix_cons_iff]

namespace TorchLed

/-! ### The least name -/

section Least

variable {names : List String} {name : String}

theorem least?_eq_none_iff : least? names = none ↔ names = [] := by
  cases names with
  | nil => exact iff_of_true rfl rfl
  | cons first rest =>
    refine iff_of_false ?_ (List.cons_ne_nil _ _)
    rw [least?]
    split
    · exact nofun
    · exact nofun

theorem least?_spec (least : least? names = some name) :
    name ∈ names ∧ ∀ other ∈ names, name ≤ other := by
  induction names generalizing name with
  | nil => cases least
  | cons first rest ih =>
    rw [least?] at least
    split at least
    · next none =>
      obtain rfl := Option.some.inj least
      rw [least?_eq_none_iff.mp none]
      exact ⟨List.mem_singleton_self _, List.forall_mem_singleton.mpr (String.le_refl _)⟩
    · next best found =>
      obtain rfl := Option.some.inj least
      obtain ⟨member, below⟩ := ih found
      split
      · next less =>
        exact ⟨List.mem_cons_of_mem _ member,
          List.forall_mem_cons.mpr ⟨String.not_lt.mp (String.lt_asymm less), below⟩⟩
      · next notLess =>
        have least : first ≤ best := String.not_lt.mp notLess
        exact ⟨List.mem_cons_self, List.forall_mem_cons.mpr ⟨String.le_refl _, fun other later =>
          String.le_trans least (below other later)⟩⟩

/-- **The least name is the one that no other is less than.** -/
theorem least?_eq_some_iff :
    least? names = some name ↔ name ∈ names ∧ ∀ other ∈ names, name ≤ other := by
  refine ⟨least?_spec, fun ⟨member, below⟩ => ?_⟩
  cases least : least? names with
  | none =>
    rw [least?_eq_none_iff.mp least] at member
    cases member
  | some best =>
    obtain ⟨found, bestBelow⟩ := least?_spec least
    exact congrArg some (String.le_antisymm (bestBelow name member) (below best found))

end Least

/-! ### The choice -/

/-- An entry that can be the torch: its name is a text with one of the words in it, and there is a
brightness to be set. -/
structure Candidate (entries : List (List UInt8)) (hasBrightness : String → Bool) (name : String) :
    Prop where
  entry : Utf8.octets name ∈ entries
  word : "torch".toList <:+: name.toList ∨ "flashlight".toList <:+: name.toList
  brightness : hasBrightness name = true

section Choice

variable {entries reordered : List (List UInt8)} {hasBrightness : String → Bool} {name : String}

theorem isTorchName_iff :
    isTorchName name = true ↔
      "torch".toList <:+: name.toList ∨ "flashlight".toList <:+: name.toList := by
  simp [isTorchName, marks, contains_iff]

theorem mem_names_iff : name ∈ entries.filterMap Utf8.string? ↔ Utf8.octets name ∈ entries := by
  simp [Utf8.string?_eq_some_iff]

theorem mem_candidates_iff :
    name ∈ ((entries.filterMap Utf8.string?).filter fun name =>
      isTorchName name && hasBrightness name) ↔ Candidate entries hasBrightness name := by
  rw [List.mem_filter, mem_names_iff, Bool.and_eq_true, isTorchName_iff]
  exact ⟨fun ⟨entry, word, brightness⟩ => ⟨entry, word, brightness⟩,
    fun ⟨entry, word, brightness⟩ => ⟨entry, word, brightness⟩⟩

/-- **The candidate with the least octets is chosen.** -/
theorem choose_eq_some_iff :
    choose entries hasBrightness = some name ↔ Candidate entries hasBrightness name ∧
      ∀ other, Candidate entries hasBrightness other → Utf8.octets name ≤ Utf8.octets other := by
  unfold choose
  rw [least?_eq_some_iff]
  simp only [mem_candidates_iff, Utf8.octets_le_iff]

theorem choose_eq_none_iff :
    choose entries hasBrightness = none ↔ ∀ name, ¬ Candidate entries hasBrightness name := by
  unfold choose
  rw [least?_eq_none_iff, List.eq_nil_iff_forall_not_mem]
  simp only [mem_candidates_iff]

theorem Candidate.congr {hasOther : String → Bool}
    (same : ∀ entry, entry ∈ entries ↔ entry ∈ reordered)
    (agree : ∀ name, Utf8.octets name ∈ entries → hasBrightness name = hasOther name) :
    Candidate entries hasBrightness name ↔ Candidate reordered hasOther name := by
  constructor
  · rintro ⟨entry, word, brightness⟩
    exact ⟨(same _).mp entry, word, (agree name entry).symm.trans brightness⟩
  · rintro ⟨entry, word, brightness⟩
    have here := (same _).mpr entry
    exact ⟨here, word, (agree name here).trans brightness⟩

/-- **The choice is made among the entries, not by their order.** -/
theorem choose_congr {hasOther : String → Bool}
    (same : ∀ entry, entry ∈ entries ↔ entry ∈ reordered)
    (agree : ∀ name, Utf8.octets name ∈ entries → hasBrightness name = hasOther name) :
    choose entries hasBrightness = choose reordered hasOther := by
  refine Option.ext fun name => ?_
  simp only [choose_eq_some_iff, Candidate.congr same agree]

/-- Names in their order. -/
def inOrder (names : List String) : List String :=
  names.mergeSort fun first second => decide (first ≤ second)

theorem pairwise_inOrder (names : List String) : (inOrder names).Pairwise (· ≤ ·) := by
  have transitive : ∀ first second third : String, decide (first ≤ second) = true →
      decide (second ≤ third) = true → decide (first ≤ third) = true := by
    intro first second third below above
    exact decide_eq_true (String.le_trans (of_decide_eq_true below) (of_decide_eq_true above))
  have total : ∀ first second : String,
      (decide (first ≤ second) || decide (second ≤ first)) = true := by
    intro first second
    simpa using String.le_total first second
  exact (List.pairwise_mergeSort transitive total names).imp of_decide_eq_true

/-- The same is chosen as if the names of torches were sorted and the first one with a brightness
were taken. -/
theorem choose_eq_find (entries : List (List UInt8)) (hasBrightness : String → Bool) :
    choose entries hasBrightness =
      (inOrder ((entries.filterMap Utf8.string?).filter isTorchName)).find? hasBrightness := by
  have sorted := pairwise_inOrder ((entries.filterMap Utf8.string?).filter isTorchName)
  have member : ∀ name, Candidate entries hasBrightness name ↔
      name ∈ inOrder ((entries.filterMap Utf8.string?).filter isTorchName) ∧
        hasBrightness name = true := by
    intro name
    rw [inOrder, List.mem_mergeSort, ← mem_candidates_iff, List.mem_filter, List.mem_filter,
      Bool.and_eq_true, and_assoc]
  generalize inOrder _ = names at sorted member ⊢
  cases found : names.find? hasBrightness with
  | none =>
    refine choose_eq_none_iff.mpr fun name candidate => ?_
    obtain ⟨here, brightness⟩ := (member name).mp candidate
    exact List.find?_eq_none.mp found name here brightness
  | some name =>
    obtain ⟨brightness, before, after, rfl, dark⟩ := List.find?_eq_some_iff_append.mp found
    have here : name ∈ before ++ name :: after := List.mem_append_right _ List.mem_cons_self
    refine choose_eq_some_iff.mpr ⟨(member name).mpr ⟨here, brightness⟩, fun other candidate => ?_⟩
    obtain ⟨there, alight⟩ := (member other).mp candidate
    refine Utf8.octets_le_iff.mpr ?_
    rcases List.mem_append.mp there with earlier | there
    · have unlit := dark other earlier
      rw [alight] at unlit
      cases unlit
    rcases List.mem_cons.mp there with rfl | later
    · exact String.le_refl _
    · exact List.rel_of_pairwise_cons (List.pairwise_append.mp sorted).2.1 later

end Choice

end TorchLed

/-- **The torch is the diode with the least name, in whatever order the directory is read.** Of the
entries whose name is a text with one of the words in it, and which have a brightness, the one whose
name has the least octets is chosen, and none if there is no such entry. That is the first one with
a brightness if the names of torches are sorted. So **two searches find the same torch** if the
directory has the same entries and brightnesses both times. -/
theorem torch_chosen (entries : List (List UInt8)) (hasBrightness : String → Bool) :
    (∀ name, TorchLed.choose entries hasBrightness = some name ↔
      TorchLed.Candidate entries hasBrightness name ∧
        ∀ other, TorchLed.Candidate entries hasBrightness other →
          Utf8.octets name ≤ Utf8.octets other) ∧
    (TorchLed.choose entries hasBrightness = none ↔
      ∀ name, ¬ TorchLed.Candidate entries hasBrightness name) ∧
    TorchLed.choose entries hasBrightness =
      (TorchLed.inOrder ((entries.filterMap Utf8.string?).filter TorchLed.isTorchName)).find?
        hasBrightness ∧
    (∀ reordered, entries.Perm reordered →
      TorchLed.choose reordered hasBrightness = TorchLed.choose entries hasBrightness) ∧
    ∀ (disk later : Disk) (directory : Path) names reordered,
      disk.list directory = .ok names → later.list directory = .ok reordered →
      names.Perm reordered →
      (∀ name ∈ names, disk.has (TorchLed.brightnessNode directory name) =
        later.has (TorchLed.brightnessNode directory name)) →
      ∃ torch, TorchLed.find disk directory = .ok torch ∧
        TorchLed.find later directory = .ok torch ∧
        torch = TorchLed.choose (names.map Utf8.octets) fun name =>
          disk.has (TorchLed.brightnessNode directory name) := by
  refine ⟨fun name => TorchLed.choose_eq_some_iff, TorchLed.choose_eq_none_iff,
    TorchLed.choose_eq_find entries hasBrightness, ?_, ?_⟩
  · intro reordered order
    exact (TorchLed.choose_congr (fun _ => order.mem_iff) fun _ _ => rfl).symm
  · intro disk later directory names reordered listed relisted order agree
    refine ⟨_, ?_, ?_, rfl⟩
    · rw [TorchLed.find, listed]
    · rw [TorchLed.find, relisted]
      refine congrArg Except.ok (TorchLed.choose_congr (fun _ => ?_) fun name entry => ?_).symm
      · exact (order.map Utf8.octets).mem_iff
      · obtain ⟨other, member, same⟩ := List.mem_map.mp entry
        exact agree name (Utf8.octets_injective same ▸ member)

/-- Three entries, one of them no text: the least name has no brightness, so the other is the torch,
whichever of them comes first. -/
theorem torch_chosen_on_bench :
    let entries := [Utf8.octets "led:torch_1", [0xFF, 0x74], Utf8.octets "flashlight"]
    let has := fun name => name == "led:torch_1"
    let tree (first second : String) : Disk :=
      { nodes :=
          [(["leds"], .directory (.given 0)), (["leds", first], .directory (.given 0)),
            (["leds", second], .directory (.given 0)),
            (["leds", "led:torch_1", "brightness"], .file [] (.given 0))] }
    TorchLed.choose entries has = some "led:torch_1" ∧
      TorchLed.choose entries.reverse has = TorchLed.choose entries has ∧
      ∃ torch, TorchLed.find (tree "led:torch_1" "flashlight") ⟨["leds"]⟩ = .ok torch ∧
        TorchLed.find (tree "flashlight" "led:torch_1") ⟨["leds"]⟩ = .ok torch ∧
        torch = some "led:torch_1" := by
  intro entries has tree
  obtain ⟨_, _, _, orderless, agree⟩ := torch_chosen entries has
  obtain ⟨torch, found, again, chosen⟩ := agree (tree "led:torch_1" "flashlight")
    (tree "flashlight" "led:torch_1") ⟨["leds"]⟩ ["led:torch_1", "flashlight"]
    ["flashlight", "led:torch_1"] rfl rfl (List.Perm.swap _ _ _) (by decide +kernel)
  exact ⟨by decide +kernel, orderless entries.reverse (List.reverse_perm _).symm, torch, found,
    again, chosen.trans (by decide +kernel)⟩

end TouchDispatch
