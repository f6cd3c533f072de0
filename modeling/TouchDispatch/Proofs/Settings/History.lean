/-
**A listener sees the whole history of the store.**

* `Turn`: between two states of the store nothing is announced, or exactly one change is, under the
  names that tell what changed, and with the next revision;
* `turn_apply`, `turn_poll`: every deed and every look at the file is a turn, whether it works or
  not;
* `Scene`, `Act`: a store with its file, and all that can happen to them while one listener is
  there: others come, read and leave;
* `history_seen`: **what the listener was told, read or unread, is the history of the store**: one
  change for each revision, in order, and each tells what differs from the revision before.
-/

import Mathlib.Data.List.Induction
import Mathlib.Logic.Function.Basic
import TouchDispatch.Proofs.Settings.Atomic
import TouchDispatch.Proofs.Settings.Copy
import TouchDispatch.Settings.Watch

namespace TouchDispatch.Settings

open TouchDispatch.Json

variable {old new store : Store} {disk : Disk} {table values : Table} {news : List Change}

/-! ### Turns -/

/-- What is new is nothing, with the table and the revision as they were, or it is one change that
tells what is different in the table, with the next revision. -/
inductive Next (old new : Store) : List Change → Prop where
  | quiet (table : new.table = old.table) (revision : new.revision = old.revision) :
      Next old new []
  | change {names : List String} (some : names ≠ []) (tells : Tells names old.table new.table)
      (revision : new.revision = old.revision + 1) : Next old new [⟨names, old.revision + 1⟩]

/-- A turn of the store: every listener is told what is new. -/
structure Turn (old new : Store) (news : List Change) : Prop extends Told old new news where
  next : Next old new news
  ordered : old.table.Ordered → new.table.Ordered

theorem Turn.refl (store : Store) : Turn store store [] :=
  ⟨.refl store, .quiet rfl rfl, id⟩

theorem turn_announce {names : List String} (some : names ≠ [])
    (tells : Tells names store.table table)
    (ordered : store.table.Ordered → table.Ordered) :
    Turn store (store.announce table names) [⟨names, store.revision + 1⟩] := by
  refine ⟨⟨rfl, fun name => ?_⟩, .change some tells rfl, ordered⟩
  by_cases same : SameAt name store.table table
  · exact Or.inl same
  · refine Or.inr ⟨_, List.mem_singleton_self _, ?_⟩
    exact List.contains_iff_mem.mpr ((tells.mem_iff name).mpr same)

theorem turn_update (store : Store) (disk : Disk) (ordered : values.Ordered) :
    ∃ news, Turn store (store.update disk values).store news := by
  rcases update_cases store disk values with
    ⟨_, update⟩ | ⟨cause, changed, _, update⟩ | ⟨differs, changed, _, update⟩
  · rw [update]
    exact ⟨[], .refl store⟩
  · rw [update]
    exact ⟨[], .refl store⟩
  · rw [update]
    exact ⟨_, turn_announce differs (tells_merge ordered store.table) fun before =>
      ordered_merge before values⟩

theorem turn_reload (disk : Disk) (ordered : store.table.Ordered) :
    ∃ news, Turn store (store.reload disk).store news := by
  cases file : store.path with
  | none =>
    rw [reload_of_no_file disk file]
    exact ⟨[], .refl store⟩
  | some path =>
    have after : (load disk path).1.Ordered := by
      rw [load_fst]
      exact (held_legible disk path).1
    rcases reload_of_file disk file with ⟨_, reloaded⟩ | ⟨differs, reloaded⟩
    · rw [reloaded]
      exact ⟨[], .refl store⟩
    · rw [reloaded]
      exact ⟨_, turn_announce differs (tells_difference ordered after) fun _ => after⟩

/-- The values of an update come in order, like those of a table. -/
def Deed.Orderly : Deed → Prop
  | update values => values.Ordered
  | _ => True

/-- **Every deed is a turn of the store**, whether it works or not. -/
theorem turn_apply (disk : Disk) {deed : Deed} (orderly : deed.Orderly)
    (ordered : store.table.Ordered) : ∃ news, Turn store (deed.apply store disk).1 news := by
  cases deed with
  | set name value => exact turn_update store disk (Fields.ordered_single name value)
  | update values => exact turn_update store disk orderly
  | post body =>
    show ∃ news, Turn store (Api.applyBody store disk body).store news
    cases read : Api.readBody body with
    | error refusal =>
      rw [Api.applyBody_refused store disk read]
      exact ⟨[], .refl store⟩
    | ok values =>
      rw [Api.applyBody_read store disk read]
      exact turn_update store disk (Api.ordered_of_readBody read)
  | reload => exact turn_reload disk ordered
  | persist => exact ⟨[], .refl store⟩
  | disturb other => exact ⟨[], .refl store⟩

/-- **A look at the file is a turn of the store.** -/
theorem turn_poll (watch : Watch) (disk : Disk) (ordered : store.table.Ordered) :
    ∃ news, Turn store (watch.poll store disk).store news := by
  unfold Watch.poll
  split
  · exact ⟨[], .refl store⟩
  · split
    · split
      · exact ⟨[], .refl store⟩
      · exact turn_reload disk ordered
    · split
      · exact ⟨[], .refl store⟩
      · exact ⟨[], .refl store⟩

/-! ### Scenes -/

/-- A store with its file and the watch on it, and what one listener has read so far. -/
structure Scene where
  store : Store
  disk : Disk
  watch : Watch
  read : List Change := []

/-- Something that happens to a store. -/
inductive Act where
  /-- Somebody works on the settings, or others change the files. -/
  | deed (deed : Deed)
  /-- The watch looks at the file. -/
  | poll
  /-- Another listener comes. -/
  | subscribe
  /-- A listener leaves. -/
  | unsubscribe (listener : Nat)
  /-- A listener reads what it was told. -/
  | receive (listener : Nat)

namespace Scene

variable (listener : Nat)

/-- The scene after an act, where one listener keeps what it reads. -/
def act (scene : Scene) : Act → Scene
  | .deed deed =>
    let (store, disk) := deed.apply scene.store scene.disk
    { scene with store, disk }
  | .poll =>
    let poll := scene.watch.poll scene.store scene.disk
    { scene with store := poll.store, disk := poll.disk, watch := poll.watch }
  | .subscribe => { scene with store := scene.store.subscribe.2 }
  | .unsubscribe other => { scene with store := scene.store.unsubscribe other }
  | .receive other =>
    let (changes, store) := scene.store.receive other
    { scene with
      store
      read := if other = listener then scene.read ++ changes.getD [] else scene.read }

/-- The scene after acts, one after another. -/
def after (scene : Scene) (acts : List Act) : Scene :=
  acts.foldl (act listener) scene

/-- All changes that the listener was told, those that it has read and those that wait for it. -/
def received (scene : Scene) : List Change :=
  scene.read ++ scene.store.unread listener

/-- The listener is there, and the table is in order. -/
structure Ready (scene : Scene) : Prop where
  hears : scene.store.Hears listener
  ordered : scene.store.table.Ordered

/-- What comes of an act: the listener is told what is new in the store, and nothing else. -/
structure Heard (before after : Scene) (news : List Change) : Prop where
  received : after.received listener = before.received listener ++ news
  next : Next before.store after.store news
  ready : after.Ready listener

end Scene

/-- An act that leaves the listener there, on values that come in order. -/
def Act.Fits (listener : Nat) : Act → Prop
  | deed done => done.Orderly
  | unsubscribe other => other ≠ listener
  | _ => True

section Acts

variable {listener : Nat} {scene : Scene}

theorem heard_turn (ready : scene.Ready listener) (turn : Turn scene.store new news) (disk : Disk)
    (watch : Watch) :
    scene.Heard listener { scene with store := new, disk, watch } news := by
  refine ⟨?_, turn.next, hears_told turn.toTold ready.hears, turn.ordered ready.ordered⟩
  unfold Scene.received
  rw [unread_told turn.toTold ready.hears, List.append_assoc]

/-- Nothing is new where the inbox of the listener stays as it is. -/
theorem heard_quiet (ready : scene.Ready listener) (table : new.table = scene.store.table)
    (revision : new.revision = scene.store.revision)
    (inbox : new.inboxes[listener]?.join = scene.store.inboxes[listener]?.join) :
    scene.Heard listener { scene with store := new } [] := by
  refine ⟨?_, .quiet table revision, ?_, ?_⟩
  · unfold Scene.received Store.unread
    rw [List.append_nil, inbox]
  · unfold Store.Hears
    rw [inbox]
    exact ready.hears
  · rw [table]
    exact ready.ordered

/-- **A listener that reads knows afterwards what waited for it**, so no change is lost or told
twice. -/
theorem heard_receive (ready : scene.Ready listener) (other : Nat) :
    scene.Heard listener (scene.act listener (.receive other)) [] := by
  unfold Scene.act Store.receive
  dsimp only
  cases waits : scene.store.inboxes[other]?.join with
  | none =>
    have apart : other ≠ listener := by
      rintro rfl
      have hears := ready.hears
      unfold Store.Hears at hears
      rw [waits] at hears
      cases hears
    dsimp only
    rw [if_neg apart]
    exact heard_quiet ready rfl rfl rfl
  | some changes =>
    dsimp only
    by_cases same : other = listener
    · subst same
      have inbox : (scene.store.inboxes.set other (some []))[other]?.join = some [] := by
        rw [List.getElem?_set_self ready.hears.there]
        rfl
      rw [if_pos rfl]
      refine ⟨?_, .quiet rfl rfl, ?_, ready.ordered⟩
      · unfold Scene.received Store.unread
        rw [inbox, waits]
        simp
      · unfold Store.Hears
        rw [inbox]
        rfl
    · rw [if_neg same]
      refine heard_quiet ready rfl rfl ?_
      rw [List.getElem?_set_ne same]

/-- **Whatever happens, the listener is told what is new in the store, and nothing else.** -/
theorem heard_act (ready : scene.Ready listener) {act : Act} (fits : act.Fits listener) :
    ∃ news, scene.Heard listener (scene.act listener act) news := by
  cases act with
  | deed deed =>
    obtain ⟨news, turn⟩ := turn_apply scene.disk fits ready.ordered
    exact ⟨news, heard_turn ready turn _ scene.watch⟩
  | poll =>
    obtain ⟨news, turn⟩ := turn_poll scene.watch scene.disk ready.ordered
    exact ⟨news, heard_turn ready turn _ _⟩
  | subscribe => exact ⟨[], heard_quiet ready rfl rfl (inbox_subscribe ready.hears.there)⟩
  | unsubscribe other =>
    refine ⟨[], heard_quiet ready rfl rfl ?_⟩
    unfold Store.unsubscribe
    rw [List.getElem?_set_ne fits]
  | receive other => exact ⟨[], heard_receive ready other⟩

end Acts

/-! ### The history -/

section Runs

variable {listener : Nat} {opening : Scene} {acts : List Act} {act : Act} {snapshot : Nat → Table}

/-- The revision of the store after acts. -/
def Scene.revision (listener : Nat) (opening : Scene) (acts : List Act) : Nat :=
  (opening.after listener acts).store.revision

theorem Scene.after_concat : opening.after listener (acts ++ [act]) =
    (opening.after listener acts).act listener act :=
  List.foldl_concat _ _ _ _

/-- The tables of the store by revision, and what a listener was told of them. -/
structure Chronicle (listener : Nat) (opening : Scene) (acts : List Act)
    (snapshot : Nat → Table) : Prop where
  /-- The revision never falls. -/
  rising : ∀ before, before <+: acts → opening.store.revision ≤ opening.revision listener before ∧
    opening.revision listener before ≤ opening.revision listener acts
  /-- At all times the table is the snapshot of the revision. -/
  shown : ∀ before, before <+: acts →
    (opening.after listener before).store.table = snapshot (opening.revision listener before)
  /-- No revision is left out. -/
  passed : ∀ revision, opening.store.revision ≤ revision →
    revision ≤ opening.revision listener acts →
      ∃ before, before <+: acts ∧ opening.revision listener before = revision
  /-- There is one change for each revision, in order. -/
  counted : ((opening.after listener acts).received listener).map Change.revision =
    List.range' (opening.store.revision + 1)
      (opening.revision listener acts - opening.store.revision)
  /-- A change tells what differs from the revision before, which is something. -/
  told : ∀ change ∈ (opening.after listener acts).received listener, change.names ≠ [] ∧
    Tells change.names (snapshot (change.revision - 1)) (snapshot change.revision)

theorem Chronicle.mem_iff (chronicle : Chronicle listener opening acts snapshot) {revision : Nat} :
    (∃ change ∈ (opening.after listener acts).received listener, change.revision = revision) ↔
      opening.store.revision < revision ∧ revision ≤ opening.revision listener acts := by
  have counted : revision ∈ ((opening.after listener acts).received listener).map Change.revision ↔
      revision ∈ List.range' (opening.store.revision + 1)
        (opening.revision listener acts - opening.store.revision) := by
    rw [chronicle.counted]
  have rising := (chronicle.rising acts List.prefix_rfl).1
  rw [List.mem_map, List.mem_range'_1] at counted
  rw [counted]
  omega

theorem chronicle_nil (fresh : opening.received listener = []) :
    Chronicle listener opening [] fun _ => opening.store.table := by
  have only : ∀ before, before <+: ([] : List Act) → opening.after listener before = opening :=
    fun before first => by rw [List.prefix_nil.mp first]; rfl
  refine ⟨fun before first => ?_, fun before first => ?_, fun revision low high => ?_, ?_, ?_⟩
  · unfold Scene.revision
    rw [only before first]
    exact ⟨Nat.le_refl _, Nat.le_refl _⟩
  · rw [only before first]
  · exact ⟨[], List.prefix_rfl, Nat.le_antisymm low high⟩
  · show (opening.received listener).map _ = List.range' _ (opening.store.revision - _)
    rw [fresh, Nat.sub_self]
    rfl
  · intro change told
    rw [only [] List.prefix_rfl, fresh] at told
    cases told

theorem Chronicle.quiet (chronicle : Chronicle listener opening acts snapshot)
    (heard : (opening.after listener acts).Heard listener
      (opening.after listener (acts ++ [act])) [])
    (table : (opening.after listener (acts ++ [act])).store.table =
      (opening.after listener acts).store.table)
    (revision : opening.revision listener (acts ++ [act]) = opening.revision listener acts) :
    Chronicle listener opening (acts ++ [act]) snapshot := by
  have received := heard.received
  rw [List.append_nil] at received
  refine ⟨fun before first => ?_, fun before first => ?_, fun other low high => ?_, ?_, ?_⟩
  · rcases List.prefix_concat_iff.mp first with rfl | first
    · rw [revision]
      exact ⟨(chronicle.rising acts List.prefix_rfl).1, Nat.le_refl _⟩
    · rw [revision]
      exact chronicle.rising before first
  · rcases List.prefix_concat_iff.mp first with rfl | first
    · rw [table, revision]
      exact chronicle.shown acts List.prefix_rfl
    · exact chronicle.shown before first
  · obtain ⟨before, first, here⟩ := chronicle.passed other low (revision ▸ high)
    exact ⟨before, first.trans (List.prefix_append _ _), here⟩
  · rw [received, revision]
    exact chronicle.counted
  · rw [received]
    exact chronicle.told

/-- **A change that is told brings the next snapshot.** -/
theorem Chronicle.change (chronicle : Chronicle listener opening acts snapshot)
    {names : List String}
    (heard : (opening.after listener acts).Heard listener
      (opening.after listener (acts ++ [act])) [⟨names, opening.revision listener acts + 1⟩])
    (some : names ≠ [])
    (tells : Tells names (opening.after listener acts).store.table
      (opening.after listener (acts ++ [act])).store.table)
    (next : opening.revision listener (acts ++ [act]) = opening.revision listener acts + 1) :
    Chronicle listener opening (acts ++ [act])
      (Function.update snapshot (opening.revision listener acts + 1)
        (opening.after listener (acts ++ [act])).store.table) := by
  have start := (chronicle.rising acts List.prefix_rfl).1
  have kept : ∀ revision, revision ≤ opening.revision listener acts →
      Function.update snapshot (opening.revision listener acts + 1)
        (opening.after listener (acts ++ [act])).store.table revision = snapshot revision :=
    fun revision low => Function.update_of_ne (by omega) _ _
  refine ⟨fun before first => ?_, fun before first => ?_, fun other low high => ?_, ?_, ?_⟩
  · rcases List.prefix_concat_iff.mp first with rfl | first
    · rw [next]
      exact ⟨by omega, Nat.le_refl _⟩
    · have rising := chronicle.rising before first
      rw [next]
      exact ⟨rising.1, by omega⟩
  · rcases List.prefix_concat_iff.mp first with rfl | first
    · rw [next, Function.update_self]
    · rw [kept _ (chronicle.rising before first).2]
      exact chronicle.shown before first
  · rw [next] at high
    by_cases last : other = opening.revision listener acts + 1
    · exact ⟨acts ++ [act], List.prefix_rfl, next.trans last.symm⟩
    · obtain ⟨before, first, here⟩ := chronicle.passed other low (by omega)
      exact ⟨before, first.trans (List.prefix_append _ _), here⟩
  · have more : opening.revision listener acts + 1 - opening.store.revision =
        opening.revision listener acts - opening.store.revision + 1 := by omega
    have last : opening.store.revision + 1 + 1 *
        (opening.revision listener acts - opening.store.revision) =
          opening.revision listener acts + 1 := by omega
    rw [heard.received, List.map_append, chronicle.counted, next, more, List.range'_concat, last]
    rfl
  · intro change told
    rw [heard.received] at told
    rcases List.mem_append.mp told with told | told
    · have low := (chronicle.mem_iff.mp ⟨change, told, rfl⟩).2
      rw [kept _ low, kept _ (by omega)]
      exact chronicle.told change told
    · obtain rfl := List.mem_singleton.mp told
      dsimp only
      rw [Function.update_self, Nat.add_sub_cancel, kept _ (Nat.le_refl _),
        ← chronicle.shown acts List.prefix_rfl]
      exact ⟨some, tells⟩

/-- **The run of a listener has a chronicle.** -/
theorem chronicle_run (ready : opening.Ready listener) (fresh : opening.received listener = [])
    (fits : ∀ act ∈ acts, act.Fits listener) :
    (opening.after listener acts).Ready listener ∧
      ∃ snapshot, Chronicle listener opening acts snapshot := by
  induction acts using List.reverseRec with
  | nil => exact ⟨ready, _, chronicle_nil fresh⟩
  | append_singleton acts act ih =>
    obtain ⟨there, snapshot, chronicle⟩ :=
      ih fun other done => fits other (List.mem_append_left _ done)
    obtain ⟨news, heard⟩ := heard_act there (fits act (List.mem_concat_self))
    rw [← Scene.after_concat] at heard
    refine ⟨heard.ready, ?_⟩
    cases heard.next with
    | quiet table revision => exact ⟨snapshot, chronicle.quiet heard table revision⟩
    | change some tells revision => exact ⟨_, chronicle.change heard some tells revision⟩

/-- **What no change names since a revision is still the same.** -/
theorem Chronicle.sameAt (chronicle : Chronicle listener opening acts snapshot) {name : String}
    {revision : Nat} (low : opening.store.revision ≤ revision)
    (high : revision ≤ opening.revision listener acts)
    (left : ∀ change ∈ (opening.after listener acts).received listener,
      name ∈ change.names → change.revision ≤ revision) :
    SameAt name (snapshot revision) (opening.after listener acts).store.table := by
  rw [chronicle.shown acts List.prefix_rfl]
  obtain ⟨distance, last⟩ := Nat.exists_eq_add_of_le high
  induction distance generalizing revision with
  | zero =>
    rw [last]
    exact .refl name _
  | succ distance ih =>
    have step : SameAt name (snapshot revision) (snapshot (revision + 1)) := by
      obtain ⟨change, told, here⟩ := chronicle.mem_iff.mpr
        ⟨Nat.lt_succ_of_le low, show revision + 1 ≤ opening.revision listener acts by omega⟩
      have tells := (chronicle.told change told).2
      rw [here, Nat.succ_sub_one] at tells
      by_contra differs
      have := left change told ((tells.mem_iff name).mpr differs)
      omega
    refine step.trans (ih (by omega) (by omega) (fun change told named => ?_) (by omega))
    exact Nat.le_succ_of_le (left change told named)

end Runs

/-- **A listener sees exactly the history of the store.** From the revision at which it came, it is
told of one change for each revision up to the present one, in order, and each names exactly what
differs from the revision before, which is never nothing. So what was read of the store under a name
at some revision is still the same, unless a later change names it: whoever copies the table, and
later reads again only what the changes name, ends up with the present table. -/
theorem history_seen (store : Store) (disk : Disk) (watch : Watch) (acts : List Act)
    (ordered : store.table.Ordered) (fits : ∀ act ∈ acts, act.Fits store.subscribe.1) :
    let listener := store.subscribe.1
    let opening : Scene := { store := store.subscribe.2, disk, watch }
    let final := opening.after listener acts
    ∃ snapshot, Chronicle listener opening acts snapshot ∧
      ∀ name revision, store.revision ≤ revision → revision ≤ final.store.revision →
        (∀ change ∈ final.received listener, name ∈ change.names → change.revision ≤ revision) →
          SameAt name (snapshot revision) final.store.table := by
  intro listener opening final
  have inbox : opening.store.inboxes[listener]? = some (some []) := List.getElem?_concat_length
  have hears : opening.store.Hears listener := by
    unfold Store.Hears
    rw [inbox]
    rfl
  have fresh : opening.received listener = [] := by
    unfold Scene.received Store.unread
    rw [inbox]
    rfl
  obtain ⟨_, snapshot, chronicle⟩ := chronicle_run ⟨hears, ordered⟩ fresh fits
  exact ⟨snapshot, chronicle, fun name revision low high left => chronicle.sameAt low high left⟩

/-- A client is told of a value that was set, and of the value being gone again when somebody
empties the file. -/
theorem history_seen_by_client :
    let path : Path := ⟨["settings.json"]⟩
    let store : Store := { path := some path }
    let emptied : Disk := { nodes := [(["settings.json"], .file (content []) (.given 1))] }
    let opening : Scene := { store := store.subscribe.2, disk := {}, watch := {} }
    let final := opening.after 0
      [.deed (.set dozeName (.bool true)), .receive 0, .deed (.disturb emptied), .poll]
    (final.received 0).map Change.names = [[dozeName], [dozeName]] ∧
      (final.received 0).map Change.revision = [1, 2] := by
  intro path store emptied opening final
  have fits : ∀ act ∈ [.deed (.set dozeName (.bool true)), .receive 0, .deed (.disturb emptied),
      .poll], Act.Fits 0 act := by
    simp [Act.Fits, Deed.Orderly]
  obtain ⟨snapshot, chronicle, _⟩ := history_seen store {} {} _ Fields.ordered_nil fits
  have two : opening.revision 0
      [.deed (.set dozeName (.bool true)), .receive 0, .deed (.disturb emptied), .poll] = 2 := by
    decide +kernel
  refine ⟨by decide +kernel, chronicle.counted.trans ?_⟩
  exact congrArg (fun last => List.range' 1 (last - 0)) two

end TouchDispatch.Settings
