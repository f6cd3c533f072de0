/-
**What it comes to that the switches are set one after another.**

* `Attempt`: a value that was to be written to a node, and whether it was;
* `NodeCache.attempt?`: the attempt that writing through the cache makes, if it makes one;
* `NodeCache.Outcome`, `outcome_write`: what writing to one node comes to, in three cases;
* `Outcome.beside`: **it does nothing to a node that is apart from it**;
* `Switches.attempts`: the attempts of a whole sync, in order;
* `attempts_eq`: each node is tried as if it were the only one;
* `impact_setAll`: **what a node holds, and what is known of it, changes exactly by its own
  attempt.**
-/

import Mathlib.Data.List.Basic
import TouchDispatch.Panel.Switches
import TouchDispatch.Proofs.Disk.Overwriting

namespace TouchDispatch

open TouchDispatch.Text

/-- A value that was to be written to a node, and whether it was. -/
structure Attempt where
  path : Path
  value : String
  done : Bool
deriving DecidableEq, Repr

/-- The value that an attempt wrote to a node. -/
def Attempt.written? (path : Path) (attempt : Attempt) : Option String :=
  if attempt.path = path ∧ attempt.done = true then some attempt.value else none

/-- What a node holds that a value was written to. -/
def lineOf (value : String) : List UInt8 :=
  Utf8.octets (value ++ "\n")

namespace NodeCache

variable {cache later : NodeCache} {disk changed : Disk} {path other : Path} {value : String}
  {attempt : Option Attempt}

/-- The attempt that writing a value through the cache makes. None is made at a node that is missing
or known to hold the value. -/
def attempt? (cache : NodeCache) (disk : Disk) (path : Path) (value : String) : Option Attempt :=
  match (cache.write disk path value).result with
  | .ok true => some ⟨path, value, true⟩
  | .ok false => none
  | .error _ => some ⟨path, value, false⟩

/-- What writing a value through the cache comes to: the attempt, the cache and the tree. -/
inductive Outcome (cache : NodeCache) (disk : Disk) (path : Path) (value : String) :
    Option Attempt → NodeCache → Disk → Prop
  | passed (idle : disk.has path = false ∨ cache.lookup path.names = some value) :
      Outcome cache disk path value none cache disk
  | failed (there : disk.has path = true) (new : cache.lookup path.names ≠ some value)
      (refused : ¬ ∃ changed, disk.write path (lineOf value) = .ok changed) :
      Outcome cache disk path value (some ⟨path, value, false⟩) cache disk
  | written (there : disk.has path = true) (new : cache.lookup path.names ≠ some value)
      {changed : Disk} (written : disk.write path (lineOf value) = .ok changed) :
      Outcome cache disk path value (some ⟨path, value, true⟩) (cache.remember path value) changed

theorem write_of_idle (idle : disk.has path = false ∨ cache.lookup path.names = some value) :
    cache.write disk path value = ⟨.ok false, cache, disk⟩ := by
  unfold write
  rcases idle with missing | known
  · rw [if_pos (by rw [missing]; rfl)]
  · rw [if_pos known, ite_self]

theorem write_of_new (there : disk.has path = true) (new : cache.lookup path.names ≠ some value) :
    cache.write disk path value =
      match disk.write path (lineOf value) with
      | .ok changed => ⟨.ok true, cache.remember path value, changed⟩
      | .error cause => ⟨.error (.node path.text cause), cache, disk⟩ := by
  have present : ¬ (!disk.has path) = true := by simp [there]
  unfold write Disk.writeLine lineOf
  rw [if_neg present, if_neg new]
  cases disk.write path (Utf8.octets (value ++ "\n")) with
  | ok changed => rfl
  | error cause => rfl

theorem outcome_write (cache : NodeCache) (disk : Disk) (path : Path) (value : String) :
    Outcome cache disk path value (cache.attempt? disk path value)
      (cache.write disk path value).cache (cache.write disk path value).disk := by
  unfold attempt?
  by_cases idle : disk.has path = false ∨ cache.lookup path.names = some value
  · rw [write_of_idle idle]
    exact .passed idle
  · obtain ⟨there, new⟩ := not_or.mp idle
    replace there := Bool.of_not_eq_false there
    rw [write_of_new there new]
    cases written : disk.write path (lineOf value) with
    | ok changed => exact .written there new written
    | error cause =>
      refine .failed there new ?_
      rw [written]
      exact nofun

/-- **An attempt is made at a node that is there and not known to hold the value.** It works if the
node can be written. -/
theorem attempt?_eq_some_iff {attempt : Attempt} :
    cache.attempt? disk path value = some attempt ↔
      disk.has path = true ∧ cache.lookup path.names ≠ some value ∧
        attempt.path = path ∧ attempt.value = value ∧
        (attempt.done = true ↔ ∃ changed, disk.write path (lineOf value) = .ok changed) := by
  have outcome := outcome_write cache disk path value
  generalize cache.attempt? disk path value = made, (cache.write disk path value).cache = later,
    (cache.write disk path value).disk = changed at outcome ⊢
  obtain ⟨own, text, done⟩ := attempt
  cases outcome with
  | passed idle =>
    refine iff_of_false nofun fun ⟨there, new, _⟩ => ?_
    rcases idle with missing | known
    · rw [missing] at there
      cases there
    · exact new known
  | failed there new refused =>
    rw [iff_false_right refused]
    simp [there, new, eq_comm]
  | written there new written =>
    have works : ∃ after, disk.write path (lineOf value) = .ok after := ⟨_, written⟩
    rw [iff_true_right works]
    simp [there, new, eq_comm]

/-- What is looked at when a node is tried. -/
theorem attempt?_congr (there : changed.has path = disk.has path)
    (known : later.lookup path.names = cache.lookup path.names)
    (writes : (∃ after, changed.write path (lineOf value) = .ok after) ↔
      ∃ after, disk.write path (lineOf value) = .ok after) :
    later.attempt? changed path value = cache.attempt? disk path value := by
  refine Option.ext fun attempt => ?_
  simp only [attempt?_eq_some_iff, there, known, writes]

theorem lookup_remember (cache : NodeCache) (path : Path) (value : String) (names : List String) :
    (cache.remember path value).lookup names =
      if names = path.names then some value else cache.lookup names := by
  unfold remember
  rw [List.lookup_cons]
  by_cases same : names = path.names
  · simp [same]
  · have kept := Disk.lookup_filter (fun name => decide (name ≠ path.names)) cache names
    rw [if_pos (decide_eq_true same)] at kept
    rw [beq_eq_false_iff_ne.mpr same, if_neg same]
    exact kept

/-- What writing to one node leaves of another one. -/
structure Beside (other : Path) (cache later : NodeCache) (disk changed : Disk) : Prop where
  lookup : later.lookup other.names = cache.lookup other.names
  read : ∀ content, changed.read other = .ok content ↔ disk.read other = .ok content
  attempt : ∀ value, later.attempt? changed other value = cache.attempt? disk other value

theorem Beside.refl (other : Path) (cache : NodeCache) (disk : Disk) :
    Beside other cache cache disk disk :=
  ⟨rfl, fun _ => Iff.rfl, fun _ => rfl⟩

theorem Beside.trans {middle : NodeCache} {between : Disk}
    (first : Beside other cache middle disk between)
    (second : Beside other middle later between changed) :
    Beside other cache later disk changed :=
  ⟨second.lookup.trans first.lookup,
    fun content => (second.read content).trans (first.read content),
    fun value => (second.attempt value).trans (first.attempt value)⟩

/-- **Writing to a node does nothing to one that is apart from it.** -/
theorem Outcome.beside (outcome : Outcome cache disk path value attempt later changed)
    (apart : Disk.Apart disk path other) : Beside other cache later disk changed := by
  cases outcome with
  | passed => exact .refl other cache disk
  | failed => exact .refl other cache disk
  | written there new written =>
    obtain ⟨place, found, overwritten⟩ := Disk.overwritten_write there written
    have lookup : (cache.remember path value).lookup other.names = cache.lookup other.names := by
      rw [lookup_remember, if_neg apart.names.symm]
    exact ⟨lookup, fun content => overwritten.read (apart.places place found),
      fun value => attempt?_congr (overwritten.has other) lookup (overwritten.writes other)⟩

/-- Writing to a node makes no node appear or vanish. -/
theorem Outcome.has (outcome : Outcome cache disk path value attempt later changed) (other : Path) :
    changed.has other = disk.has other := by
  cases outcome with
  | passed => rfl
  | failed => rfl
  | written there new written =>
    obtain ⟨place, -, overwritten⟩ := Disk.overwritten_write there written
    exact overwritten.has other

theorem Outcome.apart {first second : Path}
    (outcome : Outcome cache disk path value attempt later changed)
    (apart : Disk.Apart disk first second) : Disk.Apart changed first second := by
  cases outcome with
  | passed => exact apart
  | failed => exact apart
  | written there new written =>
    obtain ⟨place, -, overwritten⟩ := Disk.overwritten_write there written
    exact apart.overwritten overwritten

/-- What becomes of a node, and of what is known of it, by an attempt to write a value to it. -/
structure Impact (path : Path) (value : String) (attempt : Option Attempt)
    (cache later : NodeCache) (disk changed : Disk) : Prop where
  lookup : later.lookup path.names =
    if attempt = some ⟨path, value, true⟩ then some value else cache.lookup path.names
  read : ∀ content, changed.read path = .ok content ↔
    if attempt = some ⟨path, value, true⟩ then content = lineOf value
    else disk.read path = .ok content

theorem Outcome.impact (outcome : Outcome cache disk path value attempt later changed) :
    Impact path value attempt cache later disk changed := by
  cases outcome with
  | passed => exact ⟨rfl, fun _ => Iff.rfl⟩
  | failed => exact ⟨by simp, by simp⟩
  | written there new written =>
    refine ⟨?_, fun content => ?_⟩
    · rw [lookup_remember, if_pos rfl, if_pos rfl]
    · rw [if_pos rfl, Disk.read_of_write written, Except.ok.injEq]
      exact eq_comm

theorem Impact.beside {middle : NodeCache} {between : Disk}
    (impact : Impact path value attempt cache middle disk between)
    (beside : Beside path middle later between changed) :
    Impact path value attempt cache later disk changed :=
  ⟨beside.lookup.trans impact.lookup,
    fun content => (beside.read content).trans (impact.read content)⟩

end NodeCache

namespace Switches

open NodeCache

variable {cache : NodeCache} {disk : Disk} {targets : List (Path × Bool)}

/-- The attempts that setting the switches makes, one after another. -/
def attempts (cache : NodeCache) (disk : Disk) : List (Path × Bool) → List Attempt
  | [] => []
  | (path, on) :: rest =>
    let outcome := cache.write disk path (value on)
    (cache.attempt? disk path (value on)).toList ++ attempts outcome.cache outcome.disk rest

/-- The number that is answered is that of the attempts that worked. -/
theorem setAll_fst (cache : NodeCache) (disk : Disk) (targets : List (Path × Bool)) :
    (setAll cache disk targets).1 = (attempts cache disk targets).countP Attempt.done := by
  induction targets generalizing cache disk with
  | nil => rfl
  | cons target rest ih =>
    obtain ⟨path, on⟩ := target
    simp only [setAll, attempts, attempt?, List.countP_append, ← ih]
    generalize cache.write disk path (value on) = outcome
    obtain ⟨result, later, changed⟩ := outcome
    generalize setAll later changed rest = others
    cases result with
    | error failure => exact (Nat.zero_add _).symm
    | ok written =>
      cases written with
      | false => exact (Nat.zero_add _).symm
      | true => exact Nat.add_comm others.1 1

/-- The nodes of some targets are apart from one another. -/
def Separate (disk : Disk) (targets : List (Path × Bool)) : Prop :=
  targets.Pairwise fun one two => Disk.Apart disk one.1 two.1

theorem setAll_cons (path : Path) (on : Bool) (rest : List (Path × Bool)) :
    (setAll cache disk ((path, on) :: rest)).2 =
      (setAll (cache.write disk path (value on)).cache (cache.write disk path (value on)).disk
        rest).2 := by
  rw [setAll]
  dsimp only
  split <;> rfl

theorem Separate.outcome {path : Path} {text : String} {attempt : Option Attempt}
    {later : NodeCache} {changed : Disk} (separate : Separate disk targets)
    (outcome : Outcome cache disk path text attempt later changed) : Separate changed targets :=
  separate.imp outcome.apart

/-- **Each node is tried as if it were the only one.** -/
theorem attempts_eq (separate : Separate disk targets) :
    attempts cache disk targets =
      targets.filterMap fun target => cache.attempt? disk target.1 (value target.2) := by
  induction targets generalizing cache disk with
  | nil => rfl
  | cons target rest ih =>
    obtain ⟨path, on⟩ := target
    obtain ⟨here, others⟩ := List.pairwise_cons.mp separate
    have outcome := outcome_write cache disk path (value on)
    have same : ∀ target ∈ rest,
        (cache.write disk path (value on)).cache.attempt? (cache.write disk path (value on)).disk
          target.1 (value target.2) = cache.attempt? disk target.1 (value target.2) :=
      fun target member => (outcome.beside (here target member)).attempt (value target.2)
    have later : Separate _ rest := Separate.outcome others outcome
    rw [attempts, ih later, List.filterMap_congr same, List.filterMap_cons]
    cases cache.attempt? disk path (value on) <;> rfl

/-- Setting switches does nothing to a node that is apart from all of them. -/
theorem beside_setAll {other : Path} (separate : Separate disk targets)
    (apart : ∀ target ∈ targets, Disk.Apart disk target.1 other) :
    Beside other cache (setAll cache disk targets).2.1 disk (setAll cache disk targets).2.2 := by
  induction targets generalizing cache disk with
  | nil => exact .refl other cache disk
  | cons target rest ih =>
    obtain ⟨path, on⟩ := target
    obtain ⟨-, others⟩ := List.pairwise_cons.mp separate
    obtain ⟨here, further⟩ := List.forall_mem_cons.mp apart
    have outcome := outcome_write cache disk path (value on)
    rw [setAll_cons]
    exact (outcome.beside here).trans
      (ih (Separate.outcome others outcome) fun target member =>
        outcome.apart (further target member))

/-- Setting switches makes no node appear or vanish. -/
theorem has_setAll (path : Path) : (setAll cache disk targets).2.2.has path = disk.has path := by
  induction targets generalizing cache disk with
  | nil => rfl
  | cons target rest ih =>
    obtain ⟨here, on⟩ := target
    rw [setAll_cons, ih]
    exact (outcome_write cache disk here (value on)).has path

/-- If no attempt is made, all stays as it is. -/
theorem setAll_of_idle (idle : attempts cache disk targets = []) :
    (setAll cache disk targets).2 = (cache, disk) := by
  induction targets generalizing cache disk with
  | nil => rfl
  | cons target rest ih =>
    obtain ⟨path, on⟩ := target
    rw [attempts] at idle
    obtain ⟨none, others⟩ := List.append_eq_nil_iff.mp idle
    have outcome := outcome_write cache disk path (value on)
    rw [Option.toList_eq_nil_iff.mp none] at outcome
    rw [setAll_cons, ih others]
    generalize (cache.write disk path (value on)).cache = later,
      (cache.write disk path (value on)).disk = changed at outcome
    cases outcome
    rfl

/-- **What a node holds, and what is known of it, changes exactly by its own attempt.** -/
theorem impact_setAll (separate : Separate disk targets) {path : Path} {on : Bool}
    (member : (path, on) ∈ targets) :
    Impact path (value on) (cache.attempt? disk path (value on)) cache
      (setAll cache disk targets).2.1 disk (setAll cache disk targets).2.2 := by
  induction targets generalizing cache disk with
  | nil => cases member
  | cons target rest ih =>
    obtain ⟨first, set⟩ := target
    obtain ⟨here, others⟩ := List.pairwise_cons.mp separate
    have outcome := outcome_write cache disk first (value set)
    have later : Separate _ rest := Separate.outcome others outcome
    rw [setAll_cons]
    rcases List.mem_cons.mp member with same | further
    · cases same
      refine outcome.impact.beside (beside_setAll later fun target found => ?_)
      exact (outcome.apart (here target found)).symm
    · have beside := outcome.beside (here _ further)
      have impact := @ih (cache.write disk first (value set)).cache _ later further
      rw [beside.attempt] at impact
      refine ⟨?_, fun content => ?_⟩
      · rw [impact.lookup, beside.lookup]
      · rw [impact.read, beside.read]

/-- A sync sets the switches to what the settings say. -/
theorem sync_eq (switches : Switches) (disk : Disk) (table : Settings.Table) :
    switches.sync disk table =
      ((setAll switches.cache disk (switches.targets table)).1,
        { switches with cache := (setAll switches.cache disk (switches.targets table)).2.1 },
        (setAll switches.cache disk (switches.targets table)).2.2) := by
  unfold sync
  obtain ⟨count, cache, disk⟩ := setAll switches.cache disk (switches.targets table)
  rfl

end Switches

end TouchDispatch
