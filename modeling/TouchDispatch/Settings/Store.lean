/-
**The settings store.**

The store holds the table in memory, a file behind it if it has one, a revision that counts the
changes, and an inbox for each listener:

* `Store.update`: merges values into the table. The file is written first; when that fails,
  nothing changes. The change is then committed and the listeners are told;
* `Store.reload`: takes over the table of the file after an outside edit;
* `Store.persist`: writes the table back to the file;
* `Store.commit`, `Store.notify`: the two steps in which a change becomes visible.
-/

import TouchDispatch.Settings.File

namespace TouchDispatch.Settings

open TouchDispatch.Json

/-- What listeners are told: the names whose values changed, and the revision after the change. -/
structure Change where
  names : List String
  revision : Nat
deriving DecidableEq, Repr

namespace Change

/-- Whether the value of a name changed. -/
def touches (change : Change) (name : String) : Bool :=
  change.names.contains name

/-- Whether the binding of some channel may have changed. -/
def touchesBindings (change : Change) : Bool :=
  change.names.any fun name => bindingStem.toList.isPrefixOf name.toList

end Change

/-- The settings store. -/
structure Store where
  /-- The file behind the store; a store without one lives in memory only. -/
  path : Option Path := none
  table : Table := []
  /-- The number of changes so far. It is exact, where a counter of 64 bits begins at zero again
  after 2^64 changes. -/
  revision : Nat := 0
  /-- The changes that each listener has not read yet; `none` for a listener that has left. -/
  inboxes : List (Option (List Change)) := []

/-- Whether a name has a value that equals the given one. -/
def holds (table : Table) (name : String) (value : Value) : Bool :=
  match table.get? name with
  | some old => old.same value
  | none => false

/-- The table with the updates merged into it, and the names whose values that changes. -/
def merge : Table → Table → Table × List String
  | table, [] => (table, [])
  | table, (name, value) :: rest =>
    if holds table name value then
      merge table rest
    else
      let (merged, names) := merge (table.insert name value) rest
      (merged, name :: names)

/-- The names whose values differ between two tables: those that are new or changed, then those
that are gone. -/
def difference (old new : Table) : List String :=
  Fields.names (new.filter fun (name, value) => !holds old name value) ++
    Fields.names (old.filter fun (name, _) => (new.get? name).isNone)

/-- The store with its file and the tree that holds the file, after an operation with a result. -/
structure Outcome (α : Type) where
  result : α
  store : Store
  disk : Disk

namespace Store

/-- A store over a file. -/
def ofFile (disk : Disk) (path : Path) : Store × Disk :=
  let (table, disk) := load disk path
  ({ path := some path, table }, disk)

/-! ### Listeners -/

/-- Adds a listener, and gives its number. -/
def subscribe (store : Store) : Nat × Store :=
  (store.inboxes.length, { store with inboxes := store.inboxes ++ [some []] })

/-- Lets a listener leave. -/
def unsubscribe (store : Store) (listener : Nat) : Store :=
  { store with inboxes := store.inboxes.set listener none }

/-- The changes that a listener has not read yet. Afterwards they are read. -/
def receive (store : Store) (listener : Nat) : Option (List Change) × Store :=
  match store.inboxes[listener]?.join with
  | some changes => (some changes, { store with inboxes := store.inboxes.set listener (some []) })
  | none => (none, store)

/-! ### Changes -/

/-- Makes a new table and the next revision visible. -/
def commit (store : Store) (table : Table) (names : List String) : Change × Store :=
  let revision := store.revision + 1
  (⟨names, revision⟩, { store with table, revision })

/-- Tells every listener of a change. -/
def notify (store : Store) (change : Change) : Store :=
  { store with inboxes := store.inboxes.map (Option.map (· ++ [change])) }

/-- Makes a change visible and tells the listeners. -/
def announce (store : Store) (table : Table) (names : List String) : Store :=
  let (change, store) := store.commit table names
  store.notify change

/-- Writes a table to the file behind the store, if there is one. -/
def saveTable (store : Store) (disk : Disk) (table : Table) : Option IoCause × Disk :=
  match store.path with
  | some path => save disk path table
  | none => (none, disk)

/-- Merges values into the table. The result is the names whose values changed; when there are
none, nothing is written and nobody is told. -/
def update (store : Store) (disk : Disk) (values : Table) :
    Outcome (Except IoCause (List String)) :=
  let (table, names) := merge store.table values
  if names = [] then ⟨.ok [], store, disk⟩
  else
    match store.saveTable disk table with
    | (some cause, disk) => ⟨.error cause, store, disk⟩
    | (none, disk) => ⟨.ok names, store.announce table names, disk⟩

/-- Sets one value. -/
def set (store : Store) (disk : Disk) (name : String) (value : Value) :
    Outcome (Except IoCause (List String)) :=
  store.update disk [(name, value)]

/-- Takes over the table of the file. The result is the names whose values changed. -/
def reload (store : Store) (disk : Disk) : Outcome (List String) :=
  match store.path with
  | none => ⟨[], store, disk⟩
  | some path =>
    let (table, disk) := load disk path
    let names := difference store.table table
    if names = [] then ⟨[], store, disk⟩
    else ⟨names, store.announce table names, disk⟩

/-- Writes the table back, for example after the file was removed. -/
def persist (store : Store) (disk : Disk) : Option IoCause × Disk :=
  store.saveTable disk store.table

end Store

end TouchDispatch.Settings
