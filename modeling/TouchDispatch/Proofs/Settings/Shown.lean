/-
**The status shows the bindings that count.**

A reader of the status sees a binding as a text, in the form in which bindings are set:

* `trimmed_trimmed`: a text that was trimmed has no blanks at its ends any more;
* `Binding.read?_setting`: the setting of a binding that was read is read as the same binding;
* `Api.shownBinding?`: the binding that the status shows for a channel;
* `shownBinding?_stateJson`: **that is the binding that counts.**
-/

import Mathlib.Data.List.DropRight
import TouchDispatch.Api
import TouchDispatch.Proofs.Settings.Deed

namespace TouchDispatch

open TouchDispatch.Json TouchDispatch.Settings TouchDispatch.Text

/-! ### Trimming -/

theorem trimEnd_cons {c : Char} (visible : isBlank c = false) (rest : List Char) :
    trimEnd (c :: rest) = c :: trimEnd rest := by
  unfold trimEnd
  rw [List.reverse_cons, List.dropWhile_append]
  cases gone : rest.reverse.dropWhile isBlank with
  | nil =>
    rw [List.isEmpty_nil, if_pos rfl, List.dropWhile_cons, visible]
    rfl
  | cons last others =>
    rw [List.isEmpty_cons, if_neg Bool.false_ne_true, List.reverse_append]
    rfl

theorem trim_trim (text : List Char) : trim (trim text) = trim text := by
  have first := List.head?_dropWhile_not isBlank text
  unfold trim
  change trimEnd (trimStart (trimEnd (trimStart text))) = trimEnd (trimStart text)
  have starts : trimStart (trimEnd (trimStart text)) = trimEnd (trimStart text) := by
    unfold trimStart
    cases left : text.dropWhile isBlank with
    | nil => rfl
    | cons c rest =>
      rw [left] at first
      rw [trimEnd_cons first, List.dropWhile_cons, first]
      rfl
  rw [starts]
  exact List.rdropWhile_idempotent isBlank (trimStart text)

/-- A text that was trimmed has no blanks at its ends any more. -/
theorem trimmed_trimmed (text : String) : trimmed (trimmed text) = trimmed text := by
  unfold trimmed
  rw [String.toList_ofList, trim_trim]

/-! ### The setting of a binding -/

namespace Binding

theorem read?_trimmed (text : String) : read? (trimmed text) = read? text := by
  unfold read?
  rw [trimmed_trimmed]

/-- **The setting of a binding that was read is read as the same binding.** -/
theorem read?_setting {text : String} {binding : Binding} (read : read? text = some binding) :
    read? binding.setting = some binding := by
  have whole := read
  unfold read? at read
  split at read
  · cases read
  all_goals obtain rfl := Option.some.inj read
  · decide
  · decide
  · decide
  · decide
  · decide
  · decide
  · decide
  · exact (read?_trimmed text).trans whole

theorem read?_default (channel : Channel) :
    read? (default channel).setting = some (default channel) := by
  cases channel <;> decide

end Binding

/-- The binding that counts is shown by a setting that is read as this binding. -/
theorem read?_setting_binding (table : Table) (channel : Channel) :
    Binding.read? (binding table channel).setting = some (binding table channel) := by
  unfold binding
  cases read : Binding.read? (word table (bindingName channel) "") with
  | none => exact Binding.read?_default channel
  | some bound => exact Binding.read?_setting read

/-! ### The status -/

namespace Api

/-- The value of a name in an object. -/
def member? : Value → String → Option Value
  | .object members, name => Fields.get? members name
  | _, _ => none

/-- The binding that a status shows for a channel. -/
def shownBinding? (state : Value) (channel : Channel) : Option Binding := do
  let effective ← member? state "effective"
  let bindings ← member? effective "bindings"
  match ← member? bindings channel.name with
  | .text setting => Binding.read? setting
  | _ => none

/-- The last pair of a record with a name counts. -/
theorem member?_record (members : List (String × Value)) (name other : String) (value : Value) :
    member? (record (members ++ [(name, value)])) other =
      if name = other then some value else member? (record members) other := by
  unfold record Fields.ofList member?
  rw [List.foldl_append]
  exact get?_insert _ name other value

/-- A record with a member for each channel has that of each channel. -/
theorem member?_channels (value : Channel → Value) (channel : Channel) :
    member? (record (Channel.all.map fun channel => (channel.name, value channel))) channel.name =
      some (value channel) := by
  have listed : (Channel.all.map fun channel => (channel.name, value channel)) =
      (((([] ++ [("circle", value .circle)]) ++ [("v", value .v)]) ++
        [("two_finger_swipe", value .twoFingerSwipe)]) ++ [("left_v", value .leftV)]) ++
        [("right_v", value .rightV)] := rfl
  rw [listed]
  simp only [member?_record]
  cases channel <;> rfl

/-- **The status shows the binding that counts.** -/
theorem shownBinding?_stateJson (status : Status) (table : Table) (channel : Channel) :
    shownBinding? (stateJson status table) channel = some (binding table channel) := by
  have effective : member? (stateJson status table) "effective" = some (effectiveJson table) :=
    (member?_record [("state", statusJson status)] "effective" "effective" _).trans (if_pos rfl)
  have bindings : member? (effectiveJson table) "bindings" =
      some (record (Channel.all.map fun channel =>
        (channel.name, .text (binding table channel).setting))) :=
    (member?_record [_, _, _, _, _] "bindings" "bindings" _).trans (if_pos rfl)
  unfold shownBinding?
  simp only [effective, bindings, Option.bind_eq_bind, Option.bind_some,
    member?_channels fun channel => .text (binding table channel).setting]
  exact read?_setting_binding table channel

end Api

end TouchDispatch
