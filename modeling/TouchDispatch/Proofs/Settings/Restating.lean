/-
**What the settings mean can be written back.**

* `Setting`: the settings that the daemon knows;
* `Setting.read`, `Setting.shown`: what a setting means in a table, and the value that is shown for
  a meaning;
* `read_of_shown`: a setting that holds the value shown for its meaning means the same;
* `Restates`: values that say again what settings mean in a table;
* `Kept`, `Said`: a table in which each setting is as it was or said again, and one in which a
  setting is said again;
* `settings_written_back`: **what was said again means what it meant, and to say it once more
  changes nothing.**
-/

import TouchDispatch.Proofs.Settings.Accord
import TouchDispatch.Proofs.Settings.Atomic
import TouchDispatch.Proofs.Settings.Packed
import TouchDispatch.Proofs.Settings.Shown

namespace TouchDispatch.Settings

open TouchDispatch.Json

/-! ### The settings that the daemon knows -/

/-- A setting that the daemon knows. -/
inductive Setting where
  | keysDisabled
  | proximityCheck
  | feedback
  | doze
  | slider
  | binding (channel : Channel)
deriving DecidableEq

namespace Setting

/-- All of them. -/
def all : List Setting :=
  [keysDisabled, proximityCheck, feedback, doze, slider] ++ Channel.all.map binding

/-- The name in the table. -/
def name : Setting → String
  | keysDisabled => keysDisabledName
  | proximityCheck => proximityCheckName
  | feedback => feedbackName
  | doze => dozeName
  | slider => sliderName
  | binding channel => bindingName channel

/-- What a setting can mean. -/
abbrev Meaning : Setting → Type
  | keysDisabled | proximityCheck | feedback => Bool
  | doze => DozeFeatures
  | slider => SliderMap
  | binding _ => Binding

/-- What a setting means in a table. -/
def read (table : Table) : (setting : Setting) → setting.Meaning
  | keysDisabled => Settings.keysDisabled table
  | proximityCheck => Settings.proximityCheck table
  | feedback => Settings.feedback table
  | doze => Settings.doze table
  | slider => Settings.sliderMap table
  | binding channel => Settings.binding table channel

/-- The value that is shown for a meaning: switches as booleans, all else as text. -/
def shown : (setting : Setting) → setting.Meaning → Value
  | keysDisabled, on | proximityCheck, on | feedback, on => .bool on
  | doze, features => .text features.setting
  | slider, map => .text map.setting
  | binding _, bound => .text bound.setting

theorem mem_all (setting : Setting) : setting ∈ all := by
  cases setting with
  | binding channel => cases channel <;> decide
  | _ => decide

/-- Each setting has a name of its own. -/
theorem name_injective : Function.Injective name := by
  have each : ∀ first ∈ all, ∀ second ∈ all, first.name = second.name → first = second := by
    decide +kernel
  exact fun first second => each first (mem_all first) second (mem_all second)

end Setting

variable {table old values : Table} {setting : Setting}

theorem flag_of_bool {name : String} {on : Bool} (held : table.get? name = some (.bool on))
    (unset : Bool) : flag table name unset = on := by
  unfold flag
  rw [held]

theorem word_of_text {name text : String} (held : table.get? name = some (.text text))
    (unset : String) : word table name unset = text := by
  unfold word
  rw [held]

/-- What a setting means depends on nothing but the value under its name. -/
theorem read_congr (same : table.get? setting.name = old.get? setting.name) :
    setting.read table = setting.read old := by
  have flags : ∀ unset, flag table setting.name unset = flag old setting.name unset := by
    intro unset
    unfold flag
    rw [same]
  have words : ∀ unset, word table setting.name unset = word old setting.name unset := by
    intro unset
    unfold word
    rw [same]
  cases setting with
  | keysDisabled => exact flags false
  | proximityCheck => exact flags true
  | feedback => exact flags false
  | doze => exact congrArg DozeFeatures.read (words "")
  | slider => exact congrArg SliderMap.read (words "")
  | binding channel =>
    have text : word table (bindingName channel) "" = word old (bindingName channel) "" := words ""
    show binding table channel = binding old channel
    unfold binding
    rw [text]

/-- **A setting that holds the value shown for its meaning means the same.** -/
theorem read_of_shown
    (held : table.get? setting.name = some (setting.shown (setting.read old))) :
    setting.read table = setting.read old := by
  cases setting with
  | keysDisabled | proximityCheck | feedback => exact flag_of_bool held _
  | doze =>
    have text : word table dozeName "" = (doze old).setting := word_of_text held ""
    show DozeFeatures.read (word table dozeName "") = doze old
    rw [text]
    exact DozeFeatures.read_setting _
  | slider =>
    have text : word table sliderName "" = (sliderMap old).setting := word_of_text held ""
    show SliderMap.read (word table sliderName "") = sliderMap old
    rw [text]
    exact SliderMap.read_setting (SliderMap.read_fits _)
  | binding channel =>
    have text : word table (bindingName channel) "" = (binding old channel).setting :=
      word_of_text held ""
    show binding table channel = binding old channel
    rw [binding, text, read?_setting_binding, Option.getD_some]

/-- Nothing but the value that is shown is the same as it. -/
theorem same_shown_iff (meaning : setting.Meaning) (value : Value) :
    value.same (setting.shown meaning) = true ↔ value = setting.shown meaning := by
  cases setting <;> cases value <;> simp [Setting.shown, Value.same]

theorem holds_shown_iff (meaning : setting.Meaning) :
    holds table setting.name (setting.shown meaning) = true ↔
      table.get? setting.name = some (setting.shown meaning) := by
  unfold holds
  cases table.get? setting.name with
  | none => exact iff_of_false Bool.false_ne_true nofun
  | some value =>
    rw [Option.some_inj]
    exact same_shown_iff meaning value

/-! ### Values that say again what settings mean -/

/-- Values that say again what settings mean in a table. -/
def Restates (old values : Table) : Prop :=
  ∀ member ∈ values, ∃ setting : Setting,
    member = (setting.name, setting.shown (setting.read old))

/-- What a setting means in a table is said again in another one. -/
def Said (old : Table) (setting : Setting) (table : Table) : Prop :=
  table.get? setting.name = some (setting.shown (setting.read old))

/-- Each setting is as it was, or said again. -/
def Kept (old table : Table) : Prop :=
  ∀ setting : Setting, table.get? setting.name = old.get? setting.name ∨ Said old setting table

theorem Kept.read (kept : Kept old table) (setting : Setting) :
    setting.read table = setting.read old :=
  (kept setting).elim read_congr read_of_shown

/-- To say a setting again leaves the other settings alone. -/
theorem get?_insert_shown (table : Table) (setting other : Setting) :
    (table.insert setting.name (setting.shown (setting.read old))).get? other.name =
      table.get? other.name ∨
    Said old other (table.insert setting.name (setting.shown (setting.read old))) := by
  by_cases same : setting = other
  · subst same
    exact Or.inr ((get?_insert ..).trans (if_pos rfl))
  · exact Or.inl ((get?_insert ..).trans (if_neg fun named => same (Setting.name_injective named)))

theorem Kept.merge (kept : Kept old table) (restates : Restates old values) :
    Kept old (merge table values).1 := by
  refine merge_induction kept fun member given before kept other => ?_
  obtain ⟨setting, rfl⟩ := restates member given
  rcases get?_insert_shown before setting other with same | said
  · exact (kept other).imp same.trans same.trans
  · exact Or.inr said

theorem Said.merge (said : Said old setting table) (restates : Restates old values) :
    Said old setting (merge table values).1 := by
  refine merge_induction said fun member given before said => ?_
  obtain ⟨other, rfl⟩ := restates member given
  exact (get?_insert_shown before other setting).elim (·.trans said) id

/-- **A merge says again what its values name.** -/
theorem said_of_named (restates : Restates old values) (named : setting.name ∈ values.names) :
    Said old setting (merge table values).1 := by
  induction values generalizing table with
  | nil => cases named
  | cons member rest ih =>
    obtain ⟨other, rfl⟩ := restates member List.mem_cons_self
    have later : Restates old rest := fun member given =>
      restates member (List.mem_cons_of_mem _ given)
    rcases List.mem_cons.mp named with here | there
    · obtain rfl := Setting.name_injective here
      cases held : holds table setting.name (setting.shown (setting.read old)) with
      | true =>
        rw [merge_held rest held]
        exact Said.merge ((holds_shown_iff _).mp held) later
      | false =>
        rw [merge_set rest held]
        exact Said.merge ((get?_insert ..).trans (if_pos rfl)) later
    · cases held : holds table other.name (other.shown (other.read old)) with
      | true =>
        rw [merge_held rest held]
        exact ih later there
      | false =>
        rw [merge_set rest held]
        exact ih later there

/-- What is said already is not set again. -/
theorem merge_of_said (said : ∀ setting, Said old setting table) (restates : Restates old values) :
    merge table values = (table, []) := by
  induction values with
  | nil => rfl
  | cons member rest ih =>
    obtain ⟨setting, rfl⟩ := restates member List.mem_cons_self
    rw [merge_held rest ((holds_shown_iff _).mpr (said setting))]
    exact ih fun member given => restates member (List.mem_cons_of_mem _ given)

/-! ### Deeds that say again what settings mean -/

/-- The values that a deed merges into the table, if that is what it does. -/
def Deed.stores? : Deed → Option Table
  | set name value => some [(name, value)]
  | update values => some values
  | post body => (Api.readBody body).toOption
  | reload | persist | disturb _ => none

/-- A deed that says again what settings mean in a table. -/
def Deed.Restates (old : Table) (deed : Deed) : Prop :=
  ∃ values, deed.stores? = some values ∧ Settings.Restates old values

/-- Deeds that store values, one after another, of which the storage refuses none. -/
def Accepted : Store × Disk → List Deed → Prop
  | _, [] => True
  | state, deed :: rest =>
    (∀ values, deed.stores? = some values →
      ∃ names, (state.1.update state.2 values).result = .ok names) ∧
    Accepted (deed.apply state.1 state.2) rest

variable {store : Store} {disk : Disk} {deed : Deed} {deeds : List Deed}

theorem apply_of_stores (stores : deed.stores? = some values) :
    deed.apply store disk =
      ((store.update disk values).store, (store.update disk values).disk) := by
  cases deed with
  | set name value =>
    obtain rfl := Option.some.inj stores
    rfl
  | update given =>
    obtain rfl := Option.some.inj stores
    rfl
  | post body =>
    change (Api.readBody body).toOption = some values at stores
    cases read : Api.readBody body with
    | error refusal =>
      rw [read] at stores
      cases stores
    | ok given =>
      rw [read] at stores
      obtain rfl := Option.some.inj stores
      show ((Api.applyBody store disk body).store, (Api.applyBody store disk body).disk) = _
      rw [Api.applyBody_read store disk read]
  | reload | persist | disturb => cases stores

/-- The table after an update is the old one or the merged one, and the latter if it worked. -/
theorem table_update (store : Store) (disk : Disk) (values : Table) :
    ((store.update disk values).store.table = store.table ∨
      (store.update disk values).store.table = (merge store.table values).1) ∧
    ∀ names, (store.update disk values).result = .ok names →
      (store.update disk values).store.table = (merge store.table values).1 := by
  rcases update_cases store disk values with ⟨silent, updated⟩ | ⟨_, _, _, updated⟩ |
    ⟨_, _, _, updated⟩
  · rw [updated]
    exact ⟨Or.inl rfl, fun _ _ => (merge_of_silent silent).symm⟩
  · rw [updated]
    exact ⟨Or.inl rfl, nofun⟩
  · rw [updated]
    exact ⟨Or.inr rfl, fun _ _ => rfl⟩

/-- A store in memory accepts every update, and stays one. -/
theorem update_in_memory (memory : store.path = none) (values : Table) :
    (∃ names, (store.update disk values).result = .ok names) ∧
      (store.update disk values).store.path = none := by
  rcases update_cases store disk values with ⟨_, updated⟩ | ⟨_, _, failed, _⟩ | ⟨_, _, _, updated⟩
  · rw [updated]
    exact ⟨⟨_, rfl⟩, memory⟩
  · unfold Store.saveTable at failed
    rw [memory] at failed
    cases failed
  · rw [updated]
    exact ⟨⟨_, rfl⟩, memory⟩

theorem accepted_in_memory (memory : store.path = none)
    (restates : ∀ deed ∈ deeds, deed.Restates old) : Accepted (store, disk) deeds := by
  induction deeds generalizing store disk with
  | nil => trivial
  | cons deed rest ih =>
    obtain ⟨values, stores, _⟩ := restates deed List.mem_cons_self
    refine ⟨fun values _ => (update_in_memory memory values).1, ?_⟩
    rw [apply_of_stores stores]
    exact ih (update_in_memory memory values).2 fun deed given =>
      restates deed (List.mem_cons_of_mem _ given)

/-- What survives a merge of values that say it again survives deeds that say it again. -/
theorem run_induction (property : Table → Prop)
    (merged : ∀ table values, property table → Restates old values →
      property (merge table values).1)
    (restates : ∀ deed ∈ deeds, deed.Restates old) (start : property store.table) :
    property (Deed.run (store, disk) deeds).1.table := by
  induction deeds generalizing store disk with
  | nil => exact start
  | cons deed rest ih =>
    obtain ⟨values, stores, again⟩ := restates deed List.mem_cons_self
    have next : property (deed.apply store disk).1.table := by
      rw [apply_of_stores stores]
      rcases (table_update store disk values).1 with same | new
      · exact same ▸ start
      · exact new ▸ merged _ _ start again
    exact ih (fun deed given => restates deed (List.mem_cons_of_mem _ given)) next

/-- **What an accepted deed says stays said.** -/
theorem said_of_stored (restates : ∀ deed ∈ deeds, deed.Restates old)
    (accepted : Accepted (store, disk) deeds) (given : deed ∈ deeds)
    (stores : deed.stores? = some values) (named : setting.name ∈ values.names) :
    Said old setting (Deed.run (store, disk) deeds).1.table := by
  induction deeds generalizing store disk with
  | nil => cases given
  | cons first rest ih =>
    have later : ∀ deed ∈ rest, deed.Restates old := fun deed given =>
      restates deed (List.mem_cons_of_mem _ given)
    rcases List.mem_cons.mp given with rfl | there
    · obtain ⟨_, same, again⟩ := restates deed List.mem_cons_self
      obtain rfl := Option.some.inj (stores.symm.trans same)
      obtain ⟨names, worked⟩ := accepted.1 values stores
      have next : Said old setting (deed.apply store disk).1.table := by
        rw [apply_of_stores stores]
        exact (table_update store disk values).2 names worked ▸ said_of_named again named
      let after := deed.apply store disk
      show Said old setting (Deed.run (after.1, after.2) rest).1.table
      exact run_induction (Said old setting) (fun _ _ => Said.merge) later next
    · exact ih later accepted.2 there

/-- What is shown of the settings are their meanings. -/
theorem effectiveJson_congr (same : ∀ setting : Setting, setting.read table = setting.read old) :
    Api.effectiveJson table = Api.effectiveJson old := by
  have keysDisabled : keysDisabled table = keysDisabled old := same .keysDisabled
  have proximityCheck : proximityCheck table = proximityCheck old := same .proximityCheck
  have feedback : feedback table = feedback old := same .feedback
  have doze : doze table = doze old := same .doze
  have sliderMap : sliderMap table = sliderMap old := same .slider
  have bindings : binding table = binding old := funext fun channel => same (.binding channel)
  unfold Api.effectiveJson
  rw [keysDisabled, proximityCheck, feedback, doze, sliderMap, bindings]

/-- **What the settings mean can be written back.** Whatever a store holds, deeds that say again
what settings mean leave the meaning of every setting as it is, and so what is shown of them. Once
every setting was said again, and the storage refused nothing, to say it once more changes nothing
at all. -/
theorem settings_written_back (store : Store) (disk : Disk) (deeds : List Deed)
    (restates : ∀ deed ∈ deeds, deed.Restates store.table) :
    let after := Deed.run (store, disk) deeds
    (∀ setting : Setting, setting.read after.1.table = setting.read store.table) ∧
    Api.effectiveJson after.1.table = Api.effectiveJson store.table ∧
    (store.path = none ∨ Accepted (store, disk) deeds →
      (∀ setting : Setting, ∃ deed ∈ deeds, ∃ values,
        deed.stores? = some values ∧ setting.name ∈ values.names) →
      ∀ values, Restates after.1.table values →
        after.1.update after.2 values = ⟨.ok [], after.1, after.2⟩) := by
  intro after
  have kept : Kept store.table after.1.table :=
    run_induction (Kept store.table) (fun _ _ => Kept.merge) restates fun _ => Or.inl rfl
  have means := kept.read
  refine ⟨means, effectiveJson_congr means, fun safe complete values again => ?_⟩
  have accepted : Accepted (store, disk) deeds :=
    safe.elim (fun memory => accepted_in_memory memory restates) id
  have said : ∀ setting, Said after.1.table setting after.1.table := by
    intro setting
    obtain ⟨deed, given, _, stores, named⟩ := complete setting
    have before : Said store.table setting after.1.table :=
      said_of_stored restates accepted given stores named
    unfold Said
    rw [means setting]
    exact before
  have silent : merge after.1.table values = (after.1.table, []) := merge_of_said said again
  unfold Store.update
  rw [silent]
  rfl

/-- Odd settings behind a file are written back as they are shown. -/
theorem odd_settings_written_back :
    let table : Table := [
      (sliderName, .text " +7 ,-2147483648, 010"),
      (dozeName, .text " TRUE:yes: true "),
      (keysDisabledName, .text " 1"),
      (proximityCheckName, .number (.whole 0)),
      (feedbackName, .array []),
      (bindingName .circle, .bool true),
      (bindingName .leftV, .text " org.app/.Main ")]
    let store : Store := { path := some ⟨["settings.json"]⟩, table }
    let values : Table := Setting.all.map fun setting =>
      (setting.name, setting.shown (setting.read table))
    let after := Deed.run (store, {}) [.update values]
    after.1.revision = 1 ∧ sliderMap after.1.table = ⟨7, -2147483648, 10⟩ ∧
      binding after.1.table .circle = .run (.launch "true") ∧
      binding after.1.table .leftV = .run (.launch "org.app/.Main") ∧
      after.1.update after.2 values = ⟨.ok [], after.1, after.2⟩ := by
  intro table store values after
  have again : Restates table values := fun member given => by
    obtain ⟨setting, _, rfl⟩ := List.mem_map.mp given
    exact ⟨setting, rfl⟩
  have accepted : Accepted (store, {}) [.update values] := by
    refine ⟨fun other same => ?_, trivial⟩
    obtain rfl := Option.some.inj same
    have worked : (store.update {} values).result.toOption.isSome = true := by decide +kernel
    cases result : (store.update {} values).result with
    | ok names => exact ⟨names, rfl⟩
    | error cause =>
      rw [result] at worked
      cases worked
  have complete : ∀ setting : Setting, setting.name ∈ values.names := fun setting =>
    List.mem_map.mpr ⟨_, List.mem_map.mpr ⟨setting, setting.mem_all, rfl⟩, rfl⟩
  obtain ⟨means, _, silent⟩ := settings_written_back store {} [.update values]
    fun deed given => List.mem_singleton.mp given ▸ ⟨values, rfl, again⟩
  have slider : sliderMap after.1.table = sliderMap table := means .slider
  have bindings : ∀ channel, binding after.1.table channel = binding table channel :=
    fun channel => means (.binding channel)
  have later : Restates after.1.table values := fun member given => by
    obtain ⟨setting, same⟩ := again member given
    exact ⟨setting, (means setting).symm ▸ same⟩
  rw [slider, bindings, bindings]
  exact ⟨by decide +kernel, by decide +kernel, by decide +kernel, by decide +kernel,
    silent (Or.inr accepted)
      (fun setting => ⟨_, List.mem_singleton_self _, values, rfl, complete setting⟩) values later⟩

end TouchDispatch.Settings
