/-
**The switches of the touch panel follow the bindings.**

* `Switches.Round`, `Switches.Sync`: what a sync finds, and what happens at it;
* `Switches.journal`: the syncs of a run;
* `lastWritten`, `lastSeen`: the value that was written to a node last, and what it held last;
* `Undisturbed`: the nodes are files of their own, whose content only the syncs change;
* `known_after`: **what is known of a node is the value that was written to it last**;
* `seen_after`: that is also what the node held last;
* `switches_mirrored`: **after a sync each node that is there holds its value, unless writing it
  failed, and a sync writes no more than that takes.**
-/

import Mathlib.Data.List.Induction
import TouchDispatch.Proofs.Panel.Syncing

namespace TouchDispatch.Switches

open NodeCache

/-! ### Runs -/

/-- What a sync finds: the settings, and the tree. -/
structure Round where
  table : Settings.Table
  disk : Disk

/-- What happens at a sync. -/
structure Sync where
  attempts : List Attempt
  /-- The number that is answered. -/
  count : Nat
  /-- The tree that is left. -/
  left : Disk

/-- The switches after a sync. -/
def next (switches : Switches) (round : Round) : Switches :=
  (switches.sync round.disk round.table).2.1

/-- The switches after some syncs. -/
def after (switches : Switches) (rounds : List Round) : Switches :=
  rounds.foldl next switches

/-- What happens at the next sync. -/
def perform (switches : Switches) (round : Round) : Sync where
  attempts := attempts switches.cache round.disk (switches.targets round.table)
  count := (switches.sync round.disk round.table).1
  left := (switches.sync round.disk round.table).2.2

/-- What happens at some syncs, one after another. -/
def journal (switches : Switches) : List Round → List Sync
  | [] => []
  | round :: rest => switches.perform round :: (switches.next round).journal rest

/-- The value that was written to a node last. -/
def lastWritten (syncs : List Sync) (path : Path) : Option String :=
  ((syncs.flatMap Sync.attempts).filterMap (Attempt.written? path)).getLast?

/-- What a node held last, as a sync left it. -/
def lastSeen (syncs : List Sync) (path : Path) : Option (List UInt8) :=
  (syncs.filterMap fun sync => (sync.left.read path).toOption).getLast?

/-! ### Nodes -/

/-- The nodes of the switches. -/
def nodes (switches : Switches) : List Path :=
  [switches.camera, switches.flashlight, switches.music]

/-- The node that a channel is behind. -/
def nodeOf (switches : Switches) : Channel → Path
  | .circle => switches.camera
  | .v => switches.flashlight
  | .twoFingerSwipe | .leftV | .rightV => switches.music

/-- Whether some channel behind a node does anything. -/
def wanted (switches : Switches) (table : Settings.Table) (path : Path) : Bool :=
  Channel.all.any fun channel =>
    switches.nodeOf channel = path ∧ Settings.binding table channel ≠ .disabled

/-- The value that a node is to hold. -/
def goal (switches : Switches) (table : Settings.Table) (path : Path) : String :=
  value (switches.wanted table path)

/-- The nodes of a run are apart from one another whenever they are synced, and **their content is
what the syncs left there**. A node may come and go, and it may be impossible to write. -/
structure Undisturbed (switches : Switches) (rounds : List Round) : Prop where
  separate : ∀ round ∈ rounds, switches.nodes.Pairwise (Disk.Apart round.disk)
  kept : ∀ before round rest, rounds = before ++ round :: rest →
    ∀ path ∈ switches.nodes, round.disk.has path = true →
      ∀ content, lastSeen (switches.journal before) path = some content →
        round.disk.read path = .ok content

variable {switches : Switches} {rounds before rest : List Round} {round : Round} {path : Path}

@[simp]
theorem after_nil : switches.after [] = switches := rfl

@[simp]
theorem after_concat (switches : Switches) (rounds : List Round) (round : Round) :
    switches.after (rounds ++ [round]) = (switches.after rounds).next round :=
  List.foldl_concat next switches round rounds

theorem journal_concat (switches : Switches) (rounds : List Round) (round : Round) :
    switches.journal (rounds ++ [round]) =
      switches.journal rounds ++ [(switches.after rounds).perform round] := by
  induction rounds generalizing switches with
  | nil => rfl
  | cons first rest ih =>
    rw [List.cons_append, journal, ih]
    rfl

/-- Syncs leave the nodes where they are. -/
theorem after_eq (switches : Switches) (rounds : List Round) :
    switches.after rounds = { switches with cache := (switches.after rounds).cache } := by
  induction rounds using List.reverseRec with
  | nil => rfl
  | append_singleton rounds round ih =>
    rw [after_concat, ih]
    rfl

theorem lastWritten_concat (syncs : List Sync) (sync : Sync) (path : Path) :
    lastWritten (syncs ++ [sync]) path =
      (sync.attempts.filterMap (Attempt.written? path)).getLast?.or (lastWritten syncs path) := by
  simp [lastWritten, List.getLast?_append]

theorem lastSeen_concat (syncs : List Sync) (sync : Sync) (path : Path) :
    lastSeen (syncs ++ [sync]) path =
      (sync.left.read path).toOption.or (lastSeen syncs path) := by
  unfold lastSeen
  cases held : sync.left.read path with
  | ok content => simp [held, Except.toOption]
  | error cause => simp [held, Except.toOption]

theorem Undisturbed.append (undisturbed : Undisturbed switches (before ++ rest)) :
    Undisturbed switches before := by
  refine ⟨fun round member => undisturbed.separate round (List.mem_append_left _ member), ?_⟩
  rintro earlier round later rfl
  exact undisturbed.kept earlier round (later ++ rest) (by simp)

/-! ### One sync -/

theorem nodes_nodup (separate : switches.nodes.Pairwise (Disk.Apart round.disk)) :
    switches.nodes.Nodup :=
  separate.imp fun apart same => apart.names (congrArg Path.names same)

/-- **Each node has its own value.** -/
theorem targets_eq (distinct : switches.nodes.Nodup) (table : Settings.Table) :
    switches.targets table = switches.nodes.map fun path => (path, switches.wanted table path) := by
  have on : ∀ channel,
      isOn table channel = !decide (Settings.binding table channel = .disabled) := by
    intro channel
    unfold isOn
    cases Settings.binding table channel <;> rfl
  obtain ⟨camera, flashlight, music, cache⟩ := switches
  simp only [nodes, List.nodup_cons, List.mem_cons, List.not_mem_nil, or_false, not_or] at distinct
  obtain ⟨⟨apart, further⟩, other, -⟩ := distinct
  simp [targets, nodes, wanted, Channel.all, nodeOf, on, apart, further, other, Ne.symm apart,
    Ne.symm further, Ne.symm other, Bool.or_assoc]

theorem left_perform (switches : Switches) (round : Round) : (switches.perform round).left =
    (setAll switches.cache round.disk (switches.targets round.table)).2.2 := by
  rw [perform, sync_eq]

/-- A sync makes no node appear or vanish. -/
theorem has_perform (switches : Switches) (round : Round) (path : Path) :
    (switches.perform round).left.has path = round.disk.has path := by
  rw [left_perform, has_setAll]

/-- The attempt at a node. -/
def attemptAt (switches : Switches) (round : Round) (path : Path) : Option Attempt :=
  switches.cache.attempt? round.disk path (switches.goal round.table path)

section Performing

variable (separate : switches.nodes.Pairwise (Disk.Apart round.disk))
include separate

theorem separate_targets : Separate round.disk (switches.targets round.table) := by
  rw [targets_eq (nodes_nodup separate)]
  exact List.pairwise_map.mpr separate

theorem attempts_perform :
    (switches.perform round).attempts = switches.nodes.filterMap (switches.attemptAt round) := by
  change attempts switches.cache round.disk (switches.targets round.table) = _
  rw [attempts_eq (separate_targets separate), targets_eq (nodes_nodup separate),
    List.filterMap_map]
  rfl

theorem mem_attempts_iff {attempt : Attempt} :
    attempt ∈ (switches.perform round).attempts ↔
      attempt.path ∈ switches.nodes ∧ switches.attemptAt round attempt.path = some attempt := by
  rw [attempts_perform separate, List.mem_filterMap]
  constructor
  · rintro ⟨path, node, made⟩
    obtain ⟨-, -, rfl, -⟩ := attempt?_eq_some_iff.mp made
    exact ⟨node, made⟩
  · exact fun ⟨node, made⟩ => ⟨attempt.path, node, made⟩

theorem mem_attempts_of_node (node : path ∈ switches.nodes) {done : Bool} {text : String} :
    ⟨path, text, done⟩ ∈ (switches.perform round).attempts ↔
      switches.attemptAt round path = some ⟨path, text, done⟩ :=
  (mem_attempts_iff separate).trans (and_iff_right node)

/-- The answer is how many nodes were written. -/
theorem count_perform : (switches.perform round).count = switches.nodes.countP fun path =>
    (⟨path, switches.goal round.table path, true⟩ : Attempt) ∈
      (switches.perform round).attempts := by
  have counted : (switches.perform round).count =
      (switches.perform round).attempts.countP Attempt.done := by
    rw [perform, sync_eq, setAll_fst]
  rw [counted]
  rw [attempts_perform separate, List.countP_filterMap, ← attempts_perform separate]
  refine List.countP_congr fun path node => ?_
  rw [decide_eq_true_iff, mem_attempts_of_node separate node]
  cases made : switches.attemptAt round path with
  | none => simp
  | some attempt =>
    obtain ⟨-, -, rfl, value, -⟩ := attempt?_eq_some_iff.mp made
    obtain ⟨own, text, done⟩ := attempt
    simp [← value]

/-- A sync writes to a node what its own attempt does. -/
theorem written_perform (node : path ∈ switches.nodes) :
    (switches.perform round).attempts.filterMap (Attempt.written? path) =
      if switches.attemptAt round path =
        some ⟨path, switches.goal round.table path, true⟩ then
        [switches.goal round.table path] else [] := by
  have others : ∀ other, other ≠ path →
      (switches.attemptAt round other).bind (Attempt.written? path) = none := by
    intro other apart
    cases made : switches.attemptAt round other with
    | none => rfl
    | some attempt =>
      obtain ⟨-, -, rfl, -⟩ := attempt?_eq_some_iff.mp made
      exact if_neg fun same => apart same.1
  obtain ⟨before, later, split⟩ := List.append_of_mem node
  have distinct := nodes_nodup separate
  rw [split] at distinct
  obtain ⟨-, fresh, disjoint⟩ := List.nodup_append.mp distinct
  have early : before.filterMap
      (fun other => (switches.attemptAt round other).bind (Attempt.written? path)) = [] :=
    List.filterMap_eq_nil_iff.mpr fun other member =>
      others other (disjoint other member path List.mem_cons_self)
  have late : later.filterMap
      (fun other => (switches.attemptAt round other).bind (Attempt.written? path)) = [] :=
    List.filterMap_eq_nil_iff.mpr fun other member =>
      others other fun same => (List.nodup_cons.mp fresh).1 (same ▸ member)
  rw [attempts_perform separate, List.filterMap_filterMap, split, List.filterMap_append, early,
    List.filterMap_cons, late]
  cases made : switches.attemptAt round path with
  | none => rfl
  | some attempt =>
    obtain ⟨-, -, rfl, value, -⟩ := attempt?_eq_some_iff.mp made
    obtain ⟨own, text, done⟩ := attempt
    cases done <;> simp [Attempt.written?, ← value]

theorem impact_perform (node : path ∈ switches.nodes) :
    Impact path (switches.goal round.table path) (switches.attemptAt round path) switches.cache
      (switches.next round).cache round.disk (switches.perform round).left := by
  rw [next, left_perform, sync_eq]
  refine impact_setAll (separate_targets separate) ?_
  rw [targets_eq (nodes_nodup separate)]
  exact List.mem_map_of_mem node

end Performing

/-! ### A whole run -/

theorem nodes_after : (switches.after before).nodes = switches.nodes := by
  rw [after_eq]
  rfl

theorem goal_after (table : Settings.Table) :
    (switches.after before).goal table path = switches.goal table path := by
  rw [after_eq]
  rfl

namespace Undisturbed

variable (undisturbed : Undisturbed switches (before ++ round :: rest))
include undisturbed

/-- At each sync the nodes are apart. -/
theorem separate_at : (switches.after before).nodes.Pairwise (Disk.Apart round.disk) := by
  rw [nodes_after]
  exact undisturbed.separate round (List.mem_append_right _ List.mem_cons_self)

theorem impact_at (node : path ∈ switches.nodes) :
    Impact path (switches.goal round.table path) ((switches.after before).attemptAt round path)
      (switches.after before).cache ((switches.after before).next round).cache round.disk
      ((switches.after before).perform round).left := by
  have impact := impact_perform undisturbed.separate_at (nodes_after.symm ▸ node)
  rw [goal_after] at impact
  exact impact

theorem attemptAt_of_mem {attempt : Attempt}
    (member : attempt ∈ ((switches.after before).perform round).attempts) :
    (switches.after before).attemptAt round attempt.path = some attempt :=
  ((mem_attempts_iff undisturbed.separate_at).mp member).2

/-- What was written last after one more sync. -/
theorem lastWritten_at (node : path ∈ switches.nodes) :
    lastWritten (switches.journal (before ++ [round])) path =
      if (switches.after before).attemptAt round path =
        some ⟨path, switches.goal round.table path, true⟩ then
        some (switches.goal round.table path)
      else lastWritten (switches.journal before) path := by
  rw [journal_concat, lastWritten_concat,
    written_perform undisturbed.separate_at (nodes_after.symm ▸ node), goal_after]
  split <;> rfl

end Undisturbed

/-- **What is known of a node is the value that was written to it last.** -/
theorem known_after (fresh : switches.cache = []) (undisturbed : Undisturbed switches rounds)
    (node : path ∈ switches.nodes) :
    (switches.after rounds).cache.lookup path.names =
      lastWritten (switches.journal rounds) path := by
  induction rounds using List.reverseRec with
  | nil =>
    rw [after_nil, fresh]
    rfl
  | append_singleton rounds round ih =>
    rw [after_concat, (undisturbed.impact_at node).lookup, undisturbed.lastWritten_at node,
      ih undisturbed.append]

/-- **What was written to a node last is what it held last.** -/
theorem seen_after (undisturbed : Undisturbed switches rounds) (node : path ∈ switches.nodes)
    {text : String} (written : lastWritten (switches.journal rounds) path = some text) :
    lastSeen (switches.journal rounds) path = some (lineOf text) := by
  induction rounds using List.reverseRec with
  | nil => cases written
  | append_singleton rounds round ih =>
    have impact := undisturbed.impact_at node
    rw [undisturbed.lastWritten_at node] at written
    rw [journal_concat, lastSeen_concat]
    split at written
    · next done =>
      cases written
      have read := (impact.read (lineOf (switches.goal round.table path))).mpr
        (by rw [if_pos done])
      rw [read]
      rfl
    · next undone =>
      have seen := ih undisturbed.append written
      cases left : ((switches.after rounds).perform round).left.read path with
      | error cause => exact seen
      | ok content =>
        have read := (impact.read content).mp left
        rw [if_neg undone] at read
        have kept := undisturbed.kept rounds round [] rfl path node (Disk.has_of_read read) _ seen
        rw [read] at kept
        cases kept
        rfl

/-- What a sync does with the nodes after some others. -/
structure Mirrors (switches : Switches) (before : List Sync) (round : Round) (sync : Sync) :
    Prop where
  /-- **Each node that is there holds its value**, unless writing it failed. -/
  holds : ∀ path ∈ switches.nodes, sync.left.has path = true →
    ⟨path, switches.goal round.table path, false⟩ ∉ sync.attempts →
      sync.left.read path = .ok (lineOf (switches.goal round.table path))
  /-- Tried are the nodes that are there and to which another value was written last. It works if
  the node can be written. -/
  tries : ∀ attempt, attempt ∈ sync.attempts ↔
    attempt.path ∈ switches.nodes ∧ attempt.value = switches.goal round.table attempt.path ∧
      round.disk.has attempt.path = true ∧ lastWritten before attempt.path ≠ some attempt.value ∧
      (attempt.done = true ↔
        ∃ changed, round.disk.write attempt.path (lineOf attempt.value) = .ok changed)
  /-- The answer is how many nodes were written. -/
  counts : sync.count = switches.nodes.countP fun path =>
    (⟨path, switches.goal round.table path, true⟩ : Attempt) ∈ sync.attempts

/-- What a sync does right after another one, `one`. -/
structure Follows (switches : Switches) (before : List Sync) (first second : Round)
    (one two : Sync) : Prop where
  /-- **A node that could not be written, or that was missing, is tried again.** -/
  retries : ∀ path ∈ switches.nodes,
    ⟨path, switches.goal first.table path, false⟩ ∈ one.attempts ∨
      (first.disk.has path = false ∧
        lastWritten before path ≠ some (switches.goal first.table path)) →
    switches.goal second.table path = switches.goal first.table path →
      second.disk.has path = true →
        ∃ done, ⟨path, switches.goal first.table path, done⟩ ∈ two.attempts
  /-- **Nothing is written again**, with the same bindings, if nothing failed and no node is new. -/
  settles : (∀ channel,
      Settings.binding second.table channel = Settings.binding first.table channel) →
    (∀ attempt ∈ one.attempts, attempt.done = true) →
    (∀ path ∈ switches.nodes, second.disk.has path = true → first.disk.has path = true) →
      two.attempts = [] ∧ two.count = 0 ∧ two.left = second.disk

section Steps

variable (fresh : switches.cache = [])
include fresh

/-- **Tried are the nodes that are there and to which another value was written last.** -/
theorem mem_attempts_at (undisturbed : Undisturbed switches (before ++ round :: rest))
    {attempt : Attempt} :
    attempt ∈ ((switches.after before).perform round).attempts ↔
      attempt.path ∈ switches.nodes ∧ attempt.value = switches.goal round.table attempt.path ∧
        round.disk.has attempt.path = true ∧
        lastWritten (switches.journal before) attempt.path ≠ some attempt.value ∧
        (attempt.done = true ↔
          ∃ changed, round.disk.write attempt.path (lineOf attempt.value) = .ok changed) := by
  rw [mem_attempts_iff undisturbed.separate_at, nodes_after]
  refine and_congr_right fun node => ?_
  rw [attemptAt, attempt?_eq_some_iff, goal_after, known_after fresh undisturbed.append node]
  constructor
  · rintro ⟨there, new, -, same, done⟩
    rw [same]
    exact ⟨rfl, there, new, done⟩
  · rintro ⟨same, there, new, done⟩
    rw [same] at new done
    exact ⟨there, new, rfl, same, done⟩

theorem attempted_at (undisturbed : Undisturbed switches (before ++ round :: rest))
    (node : path ∈ switches.nodes) (there : round.disk.has path = true)
    (new : lastWritten (switches.journal before) path ≠ some (switches.goal round.table path)) :
    ∃ done, ⟨path, switches.goal round.table path, done⟩ ∈
      ((switches.after before).perform round).attempts := by
  by_cases works : ∃ changed,
      round.disk.write path (lineOf (switches.goal round.table path)) = .ok changed
  · exact ⟨true, (mem_attempts_at fresh undisturbed).mpr
      ⟨node, rfl, there, new, iff_of_true rfl works⟩⟩
  · exact ⟨false, (mem_attempts_at fresh undisturbed).mpr
      ⟨node, rfl, there, new, iff_of_false Bool.false_ne_true works⟩⟩

/-- A node that is known to hold its value is not written. -/
theorem attemptAt_ne_of_known (undisturbed : Undisturbed switches (before ++ round :: rest))
    (node : path ∈ switches.nodes)
    (known : lastWritten (switches.journal before) path =
      some (switches.goal round.table path)) :
    (switches.after before).attemptAt round path ≠
      some ⟨path, switches.goal round.table path, true⟩ := by
  intro tried
  have member : ⟨path, switches.goal round.table path, true⟩ ∈
      ((switches.after before).perform round).attempts :=
    (mem_attempts_iff undisturbed.separate_at).mpr ⟨nodes_after.symm ▸ node, tried⟩
  obtain ⟨-, -, -, new, -⟩ := (mem_attempts_at fresh undisturbed).mp member
  exact new known

theorem mirrors (undisturbed : Undisturbed switches (before ++ round :: rest)) :
    Mirrors switches (switches.journal before) round ((switches.after before).perform round) := by
  have separate := undisturbed.separate_at
  refine ⟨fun path node left fine => ?_, fun _ => mem_attempts_at fresh undisturbed, ?_⟩
  · have there : round.disk.has path = true := by
      rw [← has_perform, left]
    refine ((undisturbed.impact_at node).read _).mpr ?_
    by_cases known : lastWritten (switches.journal before) path =
        some (switches.goal round.table path)
    · rw [if_neg (attemptAt_ne_of_known fresh undisturbed node known)]
      exact undisturbed.kept before round rest rfl path node there _
        (seen_after undisturbed.append node known)
    · obtain ⟨done, member⟩ := attempted_at fresh undisturbed node there known
      cases done with
      | false => exact absurd member fine
      | true => rw [if_pos (undisturbed.attemptAt_of_mem member)]
  · have counts := count_perform separate
    rw [nodes_after] at counts
    rw [counts]
    refine List.countP_congr fun path _ => ?_
    rw [goal_after]

theorem follows {first second : Round}
    (undisturbed : Undisturbed switches (before ++ first :: second :: rest)) :
    Follows switches (switches.journal before) first second
      ((switches.after before).perform first)
      ((switches.after (before ++ [first])).perform second) := by
  have later : Undisturbed switches ((before ++ [first]) ++ second :: rest) := by
    rwa [List.append_assoc]
  have journaled : switches.journal (before ++ [first]) =
      switches.journal before ++ [(switches.after before).perform first] := journal_concat ..
  refine ⟨fun path node unwritten same there => ?_, fun bindings fine stay => ?_⟩
  · have new : lastWritten (switches.journal (before ++ [first])) path ≠
        some (switches.goal second.table path) := by
      rw [undisturbed.lastWritten_at node, same]
      rcases unwritten with failed | ⟨missing, other⟩
      · rw [undisturbed.attemptAt_of_mem failed, if_neg (by simp)]
        exact ((mem_attempts_at fresh undisturbed).mp failed).2.2.2.1
      · rwa [if_neg]
        intro tried
        have here := (attempt?_eq_some_iff.mp tried).1
        rw [missing] at here
        cases here
    obtain ⟨done, member⟩ := attempted_at fresh later node there new
    exact ⟨done, same ▸ member⟩
  · have goals : ∀ path, switches.goal second.table path = switches.goal first.table path := by
      intro path
      unfold goal wanted
      simp only [bindings]
    have idle : ((switches.after (before ++ [first])).perform second).attempts = [] := by
      refine List.eq_nil_iff_forall_not_mem.mpr fun attempt member => ?_
      obtain ⟨node, same, there, new, -⟩ := (mem_attempts_at fresh later).mp member
      rw [same, goals, undisturbed.lastWritten_at node] at new
      split at new
      · exact new rfl
      · next undone =>
        obtain ⟨done, tried⟩ := attempted_at fresh undisturbed node (stay _ node there) new
        obtain rfl := fine _ tried
        exact undone (undisturbed.attemptAt_of_mem tried)
    refine ⟨idle, ?_, ?_⟩
    · rw [(mirrors fresh later).counts, idle]
      simp
    · rw [left_perform, setAll_of_idle idle]

end Steps

/-- **The switches mirror the bindings.** The nodes may come and go, and it may be impossible to
write them, but only the syncs change what they hold. Then what is known of a node is the value that
was written to it last; a sync leaves each node with its value unless writing it failed, and writes
exactly the nodes that are there, can be written and had another value written last; what it missed
is tried again; and with nothing to do it does nothing. -/
theorem switches_mirrored (fresh : switches.cache = [])
    (undisturbed : Undisturbed switches rounds) :
    (∀ path ∈ switches.nodes, (switches.after rounds).cache.lookup path.names =
      lastWritten (switches.journal rounds) path) ∧
    (∀ before round rest, rounds = before ++ round :: rest →
      Mirrors switches (switches.journal before) round
        ((switches.after before).perform round)) ∧
    ∀ before first second rest, rounds = before ++ first :: second :: rest →
      Follows switches (switches.journal before) first second
        ((switches.after before).perform first)
        ((switches.after (before ++ [first])).perform second) := by
  refine ⟨fun path node => known_after fresh undisturbed node, ?_, ?_⟩
  · rintro before round rest rfl
    exact mirrors fresh undisturbed
  · rintro before first second rest rfl
    exact follows fresh undisturbed

/-- Nodes without a way up in their paths are apart if they differ in their names. -/
theorem separate_of_plain (plain : ∀ path ∈ switches.nodes, path.EndsInName ∧ ".." ∉ path.parts)
    (distinct : (switches.nodes.map Path.names).Nodup) (disk : Disk) :
    switches.nodes.Pairwise (Disk.Apart disk) := by
  refine (List.pairwise_map.mp distinct).imp_of_mem fun one two names => ?_
  obtain ⟨named, straight⟩ := plain _ one
  obtain ⟨otherNamed, otherStraight⟩ := plain _ two
  exact Disk.apart_of_plain named straight otherNamed otherStraight names disk

/-- Two syncs are undisturbed if the second one finds what the first one left. -/
theorem undisturbed_pair {first second : Round}
    (separate : ∀ disk, switches.nodes.Pairwise (Disk.Apart disk))
    (kept : ∀ path ∈ switches.nodes, ∀ content,
      lastSeen [switches.perform first] path = some content →
        second.disk.read path = .ok content) :
    Undisturbed switches [first, second] := by
  refine ⟨fun round _ => separate round.disk, ?_⟩
  intro before round rest split path node _ content seen
  match before, split with
  | [], _ => cases seen
  | [_], split =>
    cases split
    exact kept path node content seen
  | _ :: _ :: _, split =>
    have length := congrArg List.length split
    simp at length

/-- Three switches. -/
def triple : Switches :=
  ⟨⟨["camera"]⟩, ⟨["flash"]⟩, ⟨["music"]⟩, []⟩

/-- A sync at which the flashlight cannot be written and the music is missing. -/
def adverse : Round where
  table := []
  disk :=
    { nodes := [(["camera"], .file [] (.given 1)), (["flash"], .file [] (.given 1))]
      refusals := [((.write, ⟨["flash"]⟩), ⟨5⟩)] }

/-- A later one at which all is well and the circle has been disabled. -/
def recovered : Round where
  table := [("device_gesture_mapping_circle", .text "disabled")]
  disk :=
    { nodes := [(["camera"], .file (lineOf "1") (.given 2)), (["flash"], .file [] (.given 1)),
        (["music"], .file [] (.given 2))] }

theorem undisturbed_recovered : Undisturbed triple [adverse, recovered] := by
  refine undisturbed_pair (separate_of_plain ?_ (by decide)) ?_
  · unfold Path.EndsInName
    decide
  · have camera : lastSeen [triple.perform adverse] ⟨["camera"]⟩ = some (lineOf "1") := by
      decide +kernel
    have flash : lastSeen [triple.perform adverse] ⟨["flash"]⟩ = some [] := by decide +kernel
    have music : lastSeen [triple.perform adverse] ⟨["music"]⟩ = none := by decide +kernel
    intro path node content seen
    simp only [nodes, triple, List.mem_cons, List.not_mem_nil, or_false] at node
    rcases node with rfl | rfl | rfl
    · cases camera.symm.trans seen
      rfl
    · cases flash.symm.trans seen
      rfl
    · cases music.symm.trans seen

/-- What failed or was missing is made up for, and the circle is turned off. -/
theorem switches_mirrored_recovered :
    (triple.journal [adverse, recovered]).map Sync.attempts =
        [[⟨⟨["camera"]⟩, "1", true⟩, ⟨⟨["flash"]⟩, "1", false⟩],
          [⟨⟨["camera"]⟩, "0", true⟩, ⟨⟨["flash"]⟩, "1", true⟩, ⟨⟨["music"]⟩, "1", true⟩]] ∧
      Undisturbed triple [adverse, recovered] ∧
      (triple.after [adverse, recovered]).cache.lookup ["music"] =
        lastWritten (triple.journal [adverse, recovered]) ⟨["music"]⟩ :=
  ⟨by decide +kernel, undisturbed_recovered,
    (switches_mirrored rfl undisturbed_recovered).1 ⟨["music"]⟩ (by decide)⟩

end TouchDispatch.Switches
