/-
**A file tree with modification times.**

* `Disk.locate`: the place that a path leads to, part by part from the root;
* `Disk.read`, `Disk.write`, `Disk.rename`, `Disk.makeDirectories`, `Disk.list`: the operations
  of a program, each with the cause for which it may fail;
* `Disk.plant`, `Disk.removeFile`, `Disk.removeAll`, `Disk.stamp`: what others do to the tree, as
  far as it can be done;
* `Disk.refusals`: operations that the storage refuses for a reason of its own, such as a full or
  a read-only device.

Whatever a program writes or makes gets a stamp that nothing else has had, and so does a directory
whenever an entry of it comes, goes or is replaced.
-/

import TouchDispatch.Disk.Path

namespace TouchDispatch

/-- A modification time: a time given from outside, in whole milliseconds since the beginning of
1970 and negative before it, or the serial number of a change of the tree, which differs from every
other time. -/
inductive Stamp where
  | given (millis : Int)
  | written (serial : Nat)
deriving DecidableEq, Repr

/-- Whether a time lies before 1970. No change of the tree is that early. -/
def Stamp.isEarly : Stamp → Bool
  | given millis => decide (millis < 0)
  | written _ => false

/-- What there is at a place: a file with a content, or a directory. -/
inductive Node where
  | file (content : List UInt8) (stamp : Stamp)
  | directory (stamp : Stamp)
deriving DecidableEq, Repr

namespace Node

/-- The modification time. -/
def stamp : Node → Stamp
  | file _ stamp => stamp
  | directory stamp => stamp

/-- The same with another modification time. -/
def stamped (time : Stamp) : Node → Node
  | file content _ => file content time
  | directory _ => directory time

/-- A directory. -/
def isDirectory : Node → Bool
  | file .. => false
  | directory _ => true

end Node

/-- The operations that change a tree. -/
inductive Access where
  | write
  | makeDirectory
  | rename
deriving DecidableEq, Repr

/-- A place in a tree: the names on the way to it from the root, its own one last. The empty place
is the root. -/
abbrev Place := List String

/-- A file tree. A place without a node has nothing at it; the root is always a directory. -/
structure Disk where
  nodes : List (Place × Node) := []
  /-- The serial number of the next change. -/
  nextSerial : Nat := 0
  /-- The operations that the storage refuses. -/
  refusals : List ((Access × Path) × Errno) := []
deriving Repr

namespace Disk

/-! ### Places -/

/-- What there is at a place. -/
def node? (disk : Disk) (place : Place) : Option Node :=
  if place = [] then some (.directory (.given 0)) else disk.nodes.lookup place

/-- Where one part of a path leads from a place, which has to be a directory. -/
def step (disk : Disk) (place : Place) (part : String) : Except Errno Place :=
  match disk.node? place with
  | none => .error .notFound
  | some (.file ..) => .error .notDirectory
  | some (.directory _) =>
    if Path.isIdle part then .ok place
    else if part = ".." then .ok place.dropLast
    else if Path.isLong part then .error .nameTooLong
    else if disk.node? (place ++ [part]) = none then .error .notFound
    else .ok (place ++ [part])

/-- Where the parts of a path lead from a place, one after another. -/
def walk (disk : Disk) (place : Place) : List String → Except Errno Place
  | [] => .ok place
  | part :: rest =>
    match disk.step place part with
    | .error errno => .error errno
    | .ok next => disk.walk next rest

/-- The place that a path leads to, where there is something. -/
def locate (disk : Disk) (path : Path) : Except IoCause Place :=
  match path.fault? with
  | some cause => .error cause
  | none => (disk.walk [] path.parts).mapError .os

/-- The place where a path has something made: the last part is a name below what the parts before
it lead to. `unfit` says why the operation does not take the last part as it is. -/
def placeFor (disk : Disk) (path : Path) (unfit : Option Errno) : Except IoCause Place :=
  match path.fault? with
  | some cause => .error cause
  | none =>
    match disk.walk [] (path.front ++ ["."]) with
    | .error errno => .error (.os errno)
    | .ok above =>
      match unfit with
      | some errno => .error (.os errno)
      | none =>
        if Path.isLong path.last then .error (.os .nameTooLong) else .ok (above ++ [path.last])

/-- The tree with another modification time at a place. -/
def stampPlace (disk : Disk) (place : Place) (time : Stamp) : Disk :=
  { disk with nodes := disk.nodes.map fun entry =>
      if entry.1 = place then (place, entry.2.stamped time) else entry }

/-- The tree after an entry of the directory above a place came, went or was replaced. -/
def touchAbove (disk : Disk) (place : Place) : Disk :=
  { disk with nextSerial := disk.nextSerial + 1 }.stampPlace place.dropLast
    (.written disk.nextSerial)

/-- The tree with a node at a place. -/
def place (disk : Disk) (place : Place) (node : Node) : Disk :=
  if disk.nodes.any fun entry => entry.1 = place then
    { disk with nodes := disk.nodes.map fun entry =>
        if entry.1 = place then (place, node) else entry }
  else
    { disk with nodes := disk.nodes ++ [(place, node)] }

/-- The tree with a node at a place, which is a new entry if there was nothing. -/
def insert (disk : Disk) (place : Place) (node : Node) : Disk :=
  match disk.node? place with
  | some _ => disk.place place node
  | none => (disk.touchAbove place).place place node

/-- The tree without what there is at a place and below it. -/
def erase (disk : Disk) (place : Place) : Disk :=
  { disk with
    nodes := disk.nodes.filter fun entry => !place.isPrefixOf entry.1 }.touchAbove place

/-! ### Looking at the tree -/

/-- What there is at a path. -/
def find (disk : Disk) (path : Path) : Except IoCause Node :=
  match disk.locate path with
  | .error cause => .error cause
  | .ok place =>
    match disk.node? place with
    | some node => .ok node
    | none => .error (.os .notFound)

/-- Whether there is something at a path. -/
def has (disk : Disk) (path : Path) : Bool :=
  match disk.find path with
  | .ok _ => true
  | .error _ => false

/-- Whether there is a directory at a path. -/
def hasDirectory (disk : Disk) (path : Path) : Bool :=
  match disk.find path with
  | .ok node => node.isDirectory
  | .error _ => false

/-- The modification time of what there is at a path. A time before 1970 is no number of
milliseconds since then, so it is told no more than that of what is missing. -/
def modified? (disk : Disk) (path : Path) : Option Stamp :=
  match disk.find path with
  | .ok node => if node.stamp.isEarly then none else some node.stamp
  | .error _ => none

/-- The content of a file. -/
def read (disk : Disk) (path : Path) : Except IoCause (List UInt8) :=
  match disk.find path with
  | .ok (.file content _) => .ok content
  | .ok (.directory _) => .error (.os .isDirectory)
  | .error cause => .error cause

/-- The name of an entry that lies right below a place. -/
def nameBelow? (place other : Place) : Option String :=
  if other.dropLast = place then other.getLast? else none

/-- The names in a directory, in the order in which they came to be. -/
def list (disk : Disk) (path : Path) : Except IoCause (List String) :=
  match disk.locate path with
  | .error cause => .error cause
  | .ok place =>
    match disk.node? place with
    | some (.directory _) => .ok (disk.nodes.filterMap fun entry => nameBelow? place entry.1)
    | some (.file ..) => .error (.os .notDirectory)
    | none => .error (.os .notFound)

/-! ### Changes by a program -/

/-- The error number with which the storage refuses an operation. -/
def refusal? (disk : Disk) (access : Access) (path : Path) : Option Errno :=
  disk.refusals.lookup (access, path)

/-- The tree after a program put a node at a place, with a new modification time. -/
def put (disk : Disk) (place : Place) (node : Stamp → Node) : Disk :=
  { disk with nextSerial := disk.nextSerial + 1 }.insert place (node (.written disk.nextSerial))

/-- Writes a file, which need not be there yet. A path that ends in a slash or in dots stands for a
directory, even if there is none. -/
def write (disk : Disk) (path : Path) (content : List UInt8) : Except IoCause Disk :=
  match disk.refusal? .write path with
  | some errno => .error (.os errno)
  | none =>
    let unfit := if path.isSlashed || path.isDotted then some Errno.isDirectory else none
    match disk.placeFor path unfit with
    | .error cause => .error cause
    | .ok place =>
      match disk.node? place with
      | some (.directory _) => .error (.os .isDirectory)
      | _ => .ok (disk.put place (.file content))

/-- Makes one directory. A path that ends in dots stands for one that is there. -/
def makeDirectory (disk : Disk) (path : Path) : Except IoCause Disk :=
  match disk.refusal? .makeDirectory path with
  | some errno => .error (.os errno)
  | none =>
    match disk.placeFor path (if path.isDotted then some .alreadyExists else none) with
    | .error cause => .error cause
    | .ok place =>
      match disk.node? place with
      | some _ => .error (.os .alreadyExists)
      | none => .ok (disk.put place .directory)

/-- Makes a directory unless it is there, and the directories on the way to it as far as they are
missing. The answer is why that failed, and the tree as it is then: the directories that were made
on the way stay. -/
def makeDirectories (disk : Disk) (path : Path) : Option IoCause × Disk :=
  match disk.makeDirectory path with
  | .ok disk => (none, disk)
  | .error cause =>
    if cause = .os .notFound then
      match lies : path.parent? with
      | none => (some cause, disk)
      | some above =>
        have := Path.length_parts_lt_of_parent? lies
        match disk.makeDirectories above with
        | (some cause, disk) => (some cause, disk)
        | (none, disk) =>
          match disk.makeDirectory path with
          | .ok disk => (none, disk)
          | .error cause => (if disk.hasDirectory path then none else some cause, disk)
    else
      (if disk.hasDirectory path then none else some cause, disk)
termination_by path.parts.length

/-- Makes the directory that a path lies in. -/
def makeParent (disk : Disk) (path : Path) : Option IoCause × Disk :=
  match path.parent? with
  | some above => disk.makeDirectories above
  | none => (none, disk)

/-- Why a path cannot be the target of a move: dots are in use by the system, and a slash stands
for a directory. -/
def unfitTarget? (path : Path) : Option Errno :=
  if path.isDotted then some .busy
  else if path.isSlashed then some .notDirectory
  else none

/-- Moves a file over another one or to where there is nothing. -/
def rename (disk : Disk) (source target : Path) : Except IoCause Disk :=
  match disk.refusal? .rename target with
  | some errno => .error (.os errno)
  | none =>
    match disk.locate source with
    | .error cause => .error cause
    | .ok origin =>
      match disk.placeFor target (unfitTarget? target) with
      | .error cause => .error cause
      | .ok place =>
        match disk.node? origin, disk.node? place with
        | none, _ => .error (.os .notFound)
        | some _, some (.directory _) => .error (.os .isDirectory)
        | some node, _ => .ok (((disk.erase origin).touchAbove place).place place node)

/-! ### Changes by others -/

/-- The tree with a node at a path, and with the directories on the way to it. A file does not take
the place of a directory, nor of one that a slash at the end of the path speaks of. -/
def plant (disk : Disk) (path : Path) (node : Node) : Disk :=
  let (_, disk) := disk.makeParent path
  let unfit := if path.isDotted || (path.isSlashed && !node.isDirectory) then some Errno.busy
    else none
  match disk.placeFor path unfit with
  | .error _ => disk
  | .ok place =>
    match disk.node? place, node with
    | some (.directory _), .file .. => disk
    | _, _ => disk.insert place node

/-- The tree without the file at a path. A directory stays. -/
def removeFile (disk : Disk) (path : Path) : Disk :=
  match disk.locate path with
  | .error _ => disk
  | .ok place =>
    match disk.node? place with
    | some (.file ..) => disk.erase place
    | _ => disk

/-- The tree without what there is at a path and below it. -/
def removeAll (disk : Disk) (path : Path) : Disk :=
  match disk.locate path with
  | .error _ => disk
  | .ok place => disk.erase place

/-- The tree with another modification time at a path. -/
def stamp (disk : Disk) (path : Path) (time : Stamp) : Disk :=
  match disk.locate path with
  | .error _ => disk
  | .ok place => disk.stampPlace place time

end Disk

end TouchDispatch
