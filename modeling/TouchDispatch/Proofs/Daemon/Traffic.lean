/-
**Whether changes reach the daemon in their order.**

Several threads work on the settings at once. Each commits its change under one lock and announces
it under another, so a change may be announced before one that was committed earlier:

* `Traffic`: the daemon and its device, the changes that are left to announce, and what each
  listener has read;
* `Traffic.move`: a commit, an announcement, a listener that comes, leaves or reads, or anything
  else that happens to the daemon;
* `session_commit_announce`: with nothing in between, the two are a deed on the settings;
* `RisesTo`: revisions that rise to a last one;
* `InTurn`, `inTurn_move`: as long as changes are announced in the order of their commits, every
  listener is told of them in that order;
* `revisions_in_turn`: **then the revisions that a listener reads rise, and the daemon shows the
  revision of the store when it has read everything.**
-/

import TouchDispatch.Device.Bench
import TouchDispatch.Proofs.Daemon.Aftermath
import TouchDispatch.Proofs.Settings.Halves

namespace TouchDispatch

open Dialogue (ends_run)
open Settings (Change Deed Store)

/-- The daemon among threads that work on the settings. A thread that nothing comes in between makes
one deed, by `session_commit_announce`. -/
structure Traffic (σ : Type) where
  session : Session σ
  /-- The changes that are committed and not announced yet, in the order of their commits. -/
  unannounced : List Change := []
  /-- What each listener has read so far. -/
  read : Nat → List Change := fun _ => []

namespace Traffic

/-- Something that happens among the threads. -/
inductive Move where
  /-- Somebody works on the settings, up to the commit. -/
  | commit (deed : Deed)
  /-- The change at a place among those that are left to announce is announced. -/
  | announce (place : Nat)
  | subscribe
  | unsubscribe (listener : Nat)
  /-- A listener reads the oldest change that it has yet to read. -/
  | hear (listener : Nat)
  /-- Something happens to the daemon that has nothing to do with the settings. -/
  | aside (step : Step)

variable {σ : Type} (host : Host σ) (engine : Nat)

def store (traffic : Traffic σ) : Store :=
  traffic.session.core.store

/-- The revision that the daemon shows. -/
def shown (traffic : Traffic σ) : Nat :=
  traffic.session.core.status.settingsRevision

/-- All changes that a listener was told, those that it has read and those that wait for it. -/
def received (traffic : Traffic σ) (listener : Nat) : List Change :=
  traffic.read listener ++ traffic.store.unread listener

/-- The same with another store. -/
def withStore (traffic : Traffic σ) (store : Store) : Traffic σ :=
  { traffic with
    session := { traffic.session with core := { traffic.session.core with store } } }

/-- The same after a listener read the oldest change that waits for it. The daemon handles what it
reads. -/
def hear (traffic : Traffic σ) (listener : Nat) : Traffic σ :=
  { traffic with
    session :=
      if listener = engine then traffic.session.next host (.deliver engine 0)
      else (traffic.withStore (traffic.store.handOut listener 0)).session
    read := fun other =>
      if listener = other then
        traffic.read other ++ (traffic.store.unread other).head?.toList
      else traffic.read other }

/-- What a move comes to, where the daemon listens under a number of its own. -/
def move (traffic : Traffic σ) : Move → Traffic σ
  | .commit deed =>
    let core := traffic.session.core
    let outcome := deed.commit core.store core.disk
    { traffic with
      session := { traffic.session with
        core := { core with store := outcome.store, disk := outcome.disk } }
      unannounced := traffic.unannounced ++ outcome.result.toList }
  | .announce place =>
    match traffic.unannounced[place]? with
    | none => traffic
    | some change =>
      { traffic.withStore (traffic.store.notify change) with
        unannounced := traffic.unannounced.eraseIdx place }
  | .subscribe => traffic.withStore traffic.store.subscribe.2
  | .unsubscribe listener => traffic.withStore (traffic.store.unsubscribe listener)
  | .hear listener => traffic.hear host engine listener
  | .aside step =>
    if step.part = .keypad then traffic
    else { traffic with session := traffic.session.next host step }

/-- The state after moves, one after another. -/
def after (traffic : Traffic σ) (moves : List Move) : Traffic σ :=
  moves.foldl (move host engine) traffic

/-- The daemon has just come up. -/
def opening (device : σ) (disk : Disk) (store : Store) (presence : Presence)
    (switches : Option Switches) : Traffic σ :=
  { session := Session.opening host device disk store presence switches }

/-- **With nothing in between, a commit and its announcement are a deed on the settings.** -/
theorem session_commit_announce (traffic : Traffic σ) (quiet : traffic.unannounced = [])
    (deed : Deed) :
    ((traffic.move host engine (.commit deed)).move host engine (.announce 0)).session =
      traffic.session.next host (.settings deed) := by
  have whole := Settings.apply_eq_commit traffic.session.core.store traffic.session.core.disk deed
  unfold Session.next Core.step move
  dsimp only
  rw [whole, quiet, List.nil_append]
  unfold Settings.Outcome.announced
  cases (deed.commit traffic.session.core.store traffic.session.core.disk).result with
  | none => rfl
  | some change => rfl

end Traffic

/-- Changes with rising revisions, of which none is above the last one. -/
structure RisesTo (last : Nat) (changes : List Change) : Prop where
  rising : (changes.map Change.revision).Pairwise (· < ·)
  past : ∀ change ∈ changes, change.revision ≤ last

section Rising

variable {last : Nat} {changes fewer : List Change} {change : Change}

theorem risesTo_nil (last : Nat) : RisesTo last [] :=
  ⟨List.Pairwise.nil, List.forall_mem_nil _⟩

theorem RisesTo.sublist (rises : RisesTo last changes) (left : fewer.Sublist changes) :
    RisesTo last fewer :=
  ⟨rises.rising.sublist (left.map Change.revision), fun change member =>
    rises.past change (left.subset member)⟩

theorem RisesTo.later (rises : RisesTo last changes) : RisesTo (last + 1) changes :=
  ⟨rises.rising, fun change member => Nat.le_succ_of_le (rises.past change member)⟩

theorem RisesTo.concat (rises : RisesTo last changes) (next : change.revision = last + 1) :
    RisesTo (last + 1) (changes ++ [change]) := by
  constructor
  case rising =>
    rw [List.map_append]
    refine List.pairwise_append.mpr ⟨rises.rising, List.pairwise_singleton _ _, ?_⟩
    intro earlier before later same
    obtain ⟨other, member, rfl⟩ := List.mem_map.mp before
    rw [List.mem_singleton.mp same, next]
    exact Nat.lt_succ_of_le (rises.past other member)
  case past =>
    intro other member
    rcases List.mem_append.mp member with before | same
    · exact rises.later.past other before
    · rw [List.mem_singleton.mp same, next]

end Rising

/-- The changes were announced in the order of their commits, up to the revision `told`. -/
structure InTurn {σ : Type} (engine told : Nat) (traffic : Traffic σ) : Prop where
  waiting : traffic.unannounced.map Change.revision =
    List.range' (told + 1) traffic.unannounced.length
  count : traffic.store.revision = told + traffic.unannounced.length
  received : ∀ listener, engine ≤ listener → RisesTo told (traffic.received listener)
  /-- The daemon has come to listen. -/
  there : engine < traffic.store.inboxes.length
  /-- The daemon has handled all changes but those that it has not read. -/
  shown : traffic.store.Hears engine →
    ((traffic.store.unread engine).getLast?.map Change.revision).getD traffic.shown = told

section Moves

variable {σ : Type} {host : Host σ} {engine told : Nat} {traffic next : Traffic σ}

/-- Nothing is announced, and what was told may have been read or dropped. -/
theorem InTurn.quiet (turn : InTurn engine told traffic)
    (unannounced : next.unannounced = traffic.unannounced)
    (revision : next.store.revision = traffic.store.revision)
    (inboxes : traffic.store.inboxes.length ≤ next.store.inboxes.length)
    (received : ∀ listener, (next.received listener).Sublist (traffic.received listener))
    (shown : next.store.Hears engine →
      ((next.store.unread engine).getLast?.map Change.revision).getD next.shown = told) :
    InTurn engine told next := by
  constructor
  case waiting => rw [unannounced, turn.waiting]
  case count => rw [unannounced, revision, turn.count]
  case received =>
    intro listener own
    exact (turn.received listener own).sublist (received listener)
  case there => exact turn.there.trans_le inboxes
  case shown => exact shown

/-- **A commit brings the next revision**, which is to be announced last. -/
theorem InTurn.commit (turn : InTurn engine told traffic) (deed : Deed) :
    InTurn engine told (traffic.move host engine (.commit deed)) := by
  unfold Traffic.move
  dsimp only
  rcases Settings.commit_cases traffic.session.core.store traffic.session.core.disk deed with
    ⟨silent, same⟩ | ⟨names, table, brings, same⟩
  · rw [silent, same]
    exact turn.quiet (List.append_nil _) rfl (Nat.le_refl _) (fun _ => List.Sublist.refl _)
      turn.shown
  · rw [brings, same]
    have count := turn.count
    have last : told + 1 + 1 * traffic.unannounced.length = traffic.store.revision + 1 := by omega
    constructor
    case waiting =>
      change List.map Change.revision
          (traffic.unannounced ++ [Change.mk names (traffic.store.revision + 1)]) =
        List.range' (told + 1)
          (traffic.unannounced ++ [Change.mk names (traffic.store.revision + 1)]).length
      rw [List.map_append, turn.waiting, List.length_append, List.length_singleton,
        List.range'_concat, last]
      rfl
    case count =>
      change traffic.store.revision + 1 =
        told + (traffic.unannounced ++ [Change.mk names (traffic.store.revision + 1)]).length
      rw [List.length_append, List.length_singleton, count]
      rfl
    case received => exact turn.received
    case there => exact turn.there
    case shown => exact turn.shown

/-- Each listener is told of a change at the end, or has left. -/
theorem received_notify (traffic : Traffic σ) (change : Change) (listener : Nat) :
    let told := traffic.read listener ++ (traffic.store.notify change).unread listener
    told = traffic.received listener ++ [change] ∨ told = traffic.received listener := by
  intro told
  by_cases hears : traffic.store.Hears listener
  · refine Or.inl ?_
    unfold Traffic.received
    rw [List.append_assoc, ← Settings.unread_notify hears]
  · refine Or.inr ?_
    unfold Traffic.received
    rw [Settings.unread_of_not_hears hears,
      ← Settings.unread_of_not_hears (Settings.hears_notify.not.mpr hears)]

/-- **An announcement in its turn tells everybody of the next revision.** -/
theorem InTurn.announce (turn : InTurn engine told traffic) :
    ∃ told, InTurn engine told (traffic.move host engine (.announce 0)) := by
  unfold Traffic.move
  dsimp only
  cases left : traffic.unannounced with
  | nil =>
    rw [List.getElem?_nil]
    exact ⟨told, turn⟩
  | cons change rest =>
    have waiting := turn.waiting
    have count := turn.count
    rw [left, List.map_cons, List.length_cons, List.range'_succ] at waiting
    rw [left, List.length_cons] at count
    obtain ⟨revision, waiting⟩ := List.cons.inj waiting
    rw [List.getElem?_cons_zero]
    dsimp only
    refine ⟨told + 1, waiting, ?_, fun listener own => ?_, ?_, fun hears => ?_⟩
    · change traffic.store.revision = told + 1 + rest.length
      omega
    · change RisesTo (told + 1)
        (traffic.read listener ++ (traffic.store.notify change).unread listener)
      have received := turn.received listener own
      rcases received_notify traffic change listener with more | same
      · rw [more]
        exact received.concat revision
      · rw [same]
        exact received.later
    · exact turn.there.trans_eq (List.length_map _).symm
    · change (((traffic.store.notify change).unread engine).getLast?.map _).getD _ = _
      rw [Settings.unread_notify (Settings.hears_notify.mp hears), List.getLast?_concat]
      exact revision

theorem InTurn.subscribe (turn : InTurn engine told traffic) :
    InTurn engine told (traffic.move host engine .subscribe) := by
  refine turn.quiet rfl rfl ?_ (fun listener => ?_) fun hears => ?_
  · change _ ≤ (traffic.store.inboxes ++ [some []]).length
    rw [List.length_append]
    exact Nat.le_add_right _ _
  · unfold Traffic.received
    change (_ ++ traffic.store.subscribe.2.unread listener).Sublist _
    rw [Settings.unread_subscribe]
    exact List.Sublist.refl _
  · change traffic.store.subscribe.2.Hears engine at hears
    change ((traffic.store.subscribe.2.unread engine).getLast?.map _).getD _ = told
    rw [Settings.unread_subscribe]
    refine turn.shown ?_
    unfold Store.Hears at *
    rw [Settings.inbox_subscribe turn.there] at hears
    exact hears

theorem InTurn.unsubscribe (turn : InTurn engine told traffic) (listener : Nat) :
    InTurn engine told (traffic.move host engine (.unsubscribe listener)) := by
  refine turn.quiet rfl rfl ?_ (fun other => ?_) fun hears => ?_
  · exact (List.length_set ..).ge
  · refine (List.Sublist.refl _).append ?_
    change ((traffic.store.unsubscribe listener).unread other).Sublist _
    rw [Settings.unread_unsubscribe]
    split
    · exact List.nil_sublist _
    · exact List.Sublist.refl _
  · obtain ⟨apart, hears⟩ := Settings.hears_unsubscribe.mp hears
    change (((traffic.store.unsubscribe listener).unread engine).getLast?.map _).getD _ = told
    rw [Settings.unread_unsubscribe, if_neg apart]
    exact turn.shown hears

/-- **What the daemon reads, it handles**, and shows the revision of. -/
theorem heard_by_daemon (session : Session σ) (listener : Nat) :
    (session.next host (.deliver listener 0)).core.store = session.core.store.handOut listener 0 ∧
      (session.next host (.deliver listener 0)).core.status.settingsRevision =
        ((session.core.store.unread listener).head?.map Change.revision).getD
          session.core.status.settingsRevision := by
  have ends := ends_run host (session.core.step (.deliver listener 0)) session.device
  generalize unread : session.core.store.unread listener = changes
  cases changes with
  | nil =>
    obtain ⟨_, same⟩ := ends_deliver_none (by rw [unread]; rfl) ends
    rw [Settings.handOut_of_unread unread]
    exact ⟨congrArg Core.store same, congrArg (·.status.settingsRevision) same⟩
  | cons change rest =>
    obtain ⟨same, _⟩ := Core.ends_settingsChanged
      (ends_deliver_some (show _ = some change by rw [unread]; rfl) ends)
    exact ⟨congrArg Core.store same, congrArg (·.status.settingsRevision) same⟩

theorem store_hear (listener : Nat) :
    (traffic.hear host engine listener).store = traffic.store.handOut listener 0 := by
  unfold Traffic.hear Traffic.store
  by_cases daemon : listener = engine
  · subst daemon
    dsimp only
    rw [if_pos rfl]
    exact (heard_by_daemon traffic.session listener).1
  · dsimp only
    rw [if_neg daemon]
    rfl

/-- Whoever reads, the oldest change goes from what is unread to what was read. -/
theorem received_hear (listener other : Nat) :
    (traffic.hear host engine listener).received other = traffic.received other := by
  unfold Traffic.received
  rw [store_hear, Settings.unread_handOut_first]
  unfold Traffic.hear
  dsimp only
  by_cases same : listener = other
  · rw [if_pos same, if_pos same, List.append_assoc]
    cases traffic.store.unread other with
    | nil => rfl
    | cons => rfl
  · rw [if_neg same, if_neg same]

/-- **A listener reads what it was told first.** -/
theorem InTurn.hear (turn : InTurn engine told traffic) (listener : Nat) :
    InTurn engine told (traffic.hear host engine listener) := by
  have store : (traffic.hear host engine listener).store = traffic.store.handOut listener 0 :=
    store_hear listener
  refine turn.quiet rfl ?_ ?_ (fun other => ?_) fun hears => ?_
  · rw [store]
    rfl
  · rw [store]
    exact (List.length_modify ..).ge
  · rw [received_hear]
  · rw [store] at hears ⊢
    have shown := turn.shown (Settings.hears_handOut.mp hears)
    rw [Settings.unread_handOut_first]
    by_cases daemon : listener = engine
    · subst daemon
      have here : (traffic.hear host listener listener).shown =
          ((traffic.store.unread listener).head?.map Change.revision).getD traffic.shown := by
        unfold Traffic.hear Traffic.shown
        rw [if_pos rfl]
        exact (heard_by_daemon traffic.session listener).2
      rw [if_pos rfl, here]
      rcases unread : traffic.store.unread listener with _ | ⟨change, _ | ⟨second, rest⟩⟩
      · rw [unread] at shown
        exact shown
      · rw [unread] at shown
        exact shown
      · rw [unread] at shown
        exact shown
    · have here : (traffic.hear host engine listener).shown = traffic.shown := by
        unfold Traffic.hear Traffic.shown
        rw [if_neg daemon]
        rfl
      rw [if_neg daemon, here]
      exact shown

theorem InTurn.aside (turn : InTurn engine told traffic) (step : Step) :
    InTurn engine told (traffic.move host engine (.aside step)) := by
  unfold Traffic.move
  dsimp only
  split
  · exact turn
  · next other =>
    obtain ⟨store, shown⟩ := revision_kept other
      (ends_run host (traffic.session.core.step step) traffic.session.device)
    have same : (Traffic.mk (traffic.session.next host step) traffic.unannounced
        traffic.read).store = traffic.store := store
    refine turn.quiet rfl (congrArg Store.revision same) (same ▸ Nat.le_refl _) (fun listener => ?_)
      fun hears => ?_
    · unfold Traffic.received
      rw [same]
    · rw [same] at hears ⊢
      exact (congrArg _ shown).trans (turn.shown hears)

/-- **Every move keeps the order, if what is announced comes in its turn.** -/
theorem inTurn_move (turn : InTurn engine told traffic) {move : Traffic.Move}
    (first : ∀ place, move = .announce place → place = 0) :
    ∃ told, InTurn engine told (traffic.move host engine move) := by
  cases move with
  | commit deed => exact ⟨told, turn.commit deed⟩
  | announce place =>
    obtain rfl := first place rfl
    exact turn.announce
  | subscribe => exact ⟨told, turn.subscribe⟩
  | unsubscribe listener => exact ⟨told, turn.unsubscribe listener⟩
  | hear listener => exact ⟨told, turn.hear listener⟩
  | aside step => exact ⟨told, turn.aside step⟩

theorem inTurn_after {moves : List Traffic.Move} (turn : InTurn engine told traffic)
    (first : ∀ place, .announce place ∈ moves → place = 0) :
    ∃ told, InTurn engine told (traffic.after host engine moves) := by
  induction moves generalizing traffic told with
  | nil => exact ⟨told, turn⟩
  | cons move rest ih =>
    have now : ∀ place, move = .announce place → place = 0 := by
      rintro place rfl
      exact first place List.mem_cons_self
    obtain ⟨_, turn⟩ : ∃ told, InTurn engine told (traffic.move host engine move) :=
      inTurn_move turn now
    exact ih turn fun place later => first place (List.mem_cons_of_mem _ later)

end Moves

/-- When the daemon has come up, nothing is left to announce. -/
theorem inTurn_opening {σ : Type} (host : Host σ) (device : σ) (disk : Disk) (store : Store)
    (presence : Presence) (switches : Option Switches) :
    InTurn store.subscribe.1 store.revision
      (Traffic.opening host device disk store presence switches) := by
  have core := Session.opening_core host device disk store presence switches
  have same : (Traffic.opening host device disk store presence switches).store =
      store.subscribe.2 := congrArg Core.store core
  have fresh : ∀ listener, store.subscribe.1 ≤ listener →
      (Traffic.opening host device disk store presence switches).received listener = [] := by
    intro listener own
    unfold Traffic.received
    rw [same, Settings.unread_subscribe]
    unfold Store.unread
    rw [List.getElem?_eq_none own]
    rfl
  constructor
  case waiting => rfl
  case count => rw [same]; rfl
  case received =>
    intro listener own
    rw [fresh listener own]
    exact risesTo_nil _
  case there =>
    rw [same]
    exact (List.length_append ..).symm ▸ Nat.lt_succ_self _
  case shown =>
    intro _
    have unread : (Traffic.opening host device disk store presence switches).store.unread
        store.subscribe.1 = [] := fresh store.subscribe.1 (Nat.le_refl _)
    rw [unread]
    exact congrArg (·.status.settingsRevision) core

/-- **If changes are announced in the order of their commits, every listener is told of them in that
order**, and the revisions that it reads rise. **When the daemon has read all changes, it shows the
revision of the store.** Announcing each change right after its commit is one way to do so, and then
the two are one deed on the settings. -/
theorem revisions_in_turn {σ : Type} (host : Host σ) (device : σ) (disk : Disk) (store : Store)
    (presence : Presence) (switches : Option Switches) (moves : List Traffic.Move)
    (first : ∀ place, .announce place ∈ moves → place = 0) :
    let engine := store.subscribe.1
    let final :=
      (Traffic.opening host device disk store presence switches).after host engine moves
    (∀ listener, engine ≤ listener →
      ((final.received listener).map Change.revision).Pairwise (· < ·)) ∧
    (final.unannounced = [] → final.store.Hears engine → final.store.unread engine = [] →
      final.shown = final.store.revision) ∧
    (final.unannounced = [] → ∀ deed : Deed,
      (final.after host engine [.commit deed, .announce 0]).session =
        final.session.next host (.settings deed)) := by
  intro engine final
  obtain ⟨told, turn⟩ :=
    inTurn_after (inTurn_opening host device disk store presence switches) first
  refine ⟨fun listener own => (turn.received listener own).rising,
    fun announced hears read => ?_,
    fun announced deed => final.session_commit_announce host engine announced deed⟩
  have shown : ((final.store.unread engine).getLast?.map Change.revision).getD final.shown = told :=
    turn.shown hears
  have count : final.store.revision = told + final.unannounced.length := turn.count
  rw [read] at shown
  rw [count, announced]
  exact shown

/-- Two threads commit a change each, and announce them in that order. Another listener comes in
between, and is told of the second change only. -/
theorem revisions_in_turn_on_bench :
    let moves : List Traffic.Move :=
      [.commit (.set "left" (.bool true)), .commit (.set "right" (.bool true)), .announce 0,
        .subscribe, .hear 0, .announce 0, .hear 1, .hear 0]
    let final := (Traffic.opening Bench.host {} {} {} {} none).after Bench.host 0 moves
    (final.read 0).map Change.revision = [1, 2] ∧ (final.read 1).map Change.revision = [2] ∧
      final.shown = final.store.revision := by
  intro moves final
  have first : ∀ place, .announce place ∈ moves → place = 0 := by
    intro place member
    simpa [moves] using member
  have shown := (revisions_in_turn Bench.host {} {} {} {} none moves first).2.1
  exact ⟨by decide +kernel, by decide +kernel,
    shown (List.isEmpty_iff.mp (by decide +kernel)) (by decide +kernel)
      (List.isEmpty_iff.mp (by decide +kernel))⟩

/-- The thread that commits last announces its change first. The daemon reads it first as well, and
shows the revision of the other one in the end. -/
theorem revisions_out_of_turn_on_bench :
    let moves : List Traffic.Move :=
      [.commit (.set "left" (.bool true)), .commit (.set "right" (.bool true)), .announce 1,
        .announce 0, .hear 0, .hear 0]
    let final := (Traffic.opening Bench.host {} {} {} {} none).after Bench.host 0 moves
    final.unannounced = [] ∧ final.store.unread 0 = [] ∧
      (final.read 0).map Change.revision = [2, 1] ∧
        final.shown = 1 ∧ final.store.revision = 2 := by
  decide +kernel

end TouchDispatch
