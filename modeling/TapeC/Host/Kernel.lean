import TapeC.Host.Tree

/-!
# Open files

Programs reach their data through descriptors, which are small numbers. A descriptor stands for an
open file, and an open file may have several descriptors, in one process or in many: all of them
read and write on from one offset. What is open may be a file of the tree, a pipe or a device. The
kernel holds what all processes share: the tree, the pipes, the open files and the signals on
their way.

Three pipes lead to the caller of the first process. The caller writes all of the input before it
reads any output, so the two may come to wait for each other; what is written after that is of no
account.
-/

namespace TapeC

/-! ## Pipes -/

/-- What was written to a pipe and not read yet: the bytes that come first, and what was written
after them, the latest first. -/
structure Pipe where
  front : Bytes
  back : List Bytes

namespace Pipe

def ofBytes (bs : Bytes) : Pipe := ⟨bs, []⟩

def empty : Pipe := .ofBytes []

/-- The number of bytes that a pipe holds. -/
def capacity : Nat := 65536

def content (p : Pipe) : Bytes :=
  if p.back.isEmpty then p.front else p.front ++ p.back.reverse.flatten

def push (p : Pipe) (bs : Bytes) : Pipe := { p with back := bs :: p.back }

/-- The first `n` bytes, and the pipe without them. -/
def pop (p : Pipe) (n : Nat) : Bytes × Pipe :=
  (p.content.take n, .ofBytes (p.content.drop n))

/-- There is more than the pipe holds, so who writes waits. -/
def isOver (p : Pipe) : Bool := capacity < p.content.length

/-- What is pushed comes after all that is there. -/
theorem content_push (p : Pipe) (bs : Bytes) : (p.push bs).content = p.content ++ bs := by
  obtain ⟨front, back⟩ := p
  cases back <;> simp [push, content]

/-- Popping loses nothing. -/
theorem content_pop (p : Pipe) (n : Nat) : (p.pop n).1 ++ (p.pop n).2.content = p.content := by
  simp [pop, ofBytes, content]

end Pipe

/-! ## Open files -/

/-- What an open file leads to. -/
inductive Outlet where
  | pipe (number : Nat)
  | file (place : Place)
  | directory (place : Place)
  /-- takes everything and has nothing -/
  | nothing
  /-- takes everything and has zero bytes without end -/
  | zeros
  /-- takes nothing and has zero bytes without end -/
  | full
deriving DecidableEq, Inhabited

structure OpenFile where
  outlet : Outlet
  readable : Bool
  writable : Bool
  /-- everything is written at the end -/
  appends : Bool
  offset : Nat
deriving DecidableEq, Inhabited

/-- How a file is opened. -/
inductive OpenMode where
  | read
  /-- for writing; what is there is dropped -/
  | replace
  /-- for writing, where nothing is yet -/
  | create
  /-- for writing at the end -/
  | append
  /-- for reading and writing what is there -/
  | update
deriving DecidableEq

namespace OpenMode

def reads (m : OpenMode) : Bool := m = .read || m = .update

def writes (m : OpenMode) : Bool := m ≠ .read

end OpenMode

/-- The open files of a process, by their descriptors. -/
abbrev Descriptors := List (Nat × Nat)

namespace Descriptors

/-- Makes a descriptor stand for an open file, instead of what it stood for. -/
def set (ds : Descriptors) (descriptor file : Nat) : Descriptors :=
  (descriptor, file) :: ds.filter (·.1 != descriptor)

def close (ds : Descriptors) (descriptor : Nat) : Descriptors := ds.filter (·.1 != descriptor)

end Descriptors

/-- The state that processes share. -/
structure Kernel where
  tree : Tree
  pipes : Array Pipe
  files : Array OpenFile
  /-- the number of the process that was started last -/
  lastProcess : Nat
  /-- signals that wait for a process to go on, the latest first -/
  signals : List (Nat × Nat)
  /-- a process and the caller wait for each other -/
  stalled : Bool

namespace Kernel

/-! ## The pipes of the caller -/

/-- The pipe that the caller writes to. -/
def callerInput : Nat := 0

/-- The pipes that the caller reads, once it has written all. -/
def callerOutputs : List Nat := [1, 2]

/-- The kernel after something was written to a pipe. If the caller has to read there first, but
still has to write itself, nobody goes on. -/
def noteStall (k : Kernel) (pipe : Nat) : Kernel :=
  let isOver (p : Nat) : Bool := (k.pipes[p]?.getD .empty).isOver
  if pipe ∈ callerOutputs && isOver callerInput && isOver pipe then { k with stalled := true }
  else k

/-! ## Reading and writing -/

/-- Opens one more file. -/
def add (k : Kernel) (file : OpenFile) : Nat × Kernel :=
  (k.files.size, { k with files := k.files.push file })

/-- Makes a pipe with something in it: the open files of its reading and its writing end. -/
def addPipe (k : Kernel) (bs : Bytes) : Nat × Nat × Kernel :=
  let outlet : Outlet := .pipe k.pipes.size
  let k := { k with pipes := k.pipes.push (.ofBytes bs) }
  let (reading, k) := k.add ⟨outlet, true, false, false, 0⟩
  let (writing, k) := k.add ⟨outlet, false, true, false, 0⟩
  (reading, writing, k)

def fileContent (k : Kernel) (place : Place) : Bytes :=
  match k.tree.node? place with
  | some (.file content _) => content
  | some (.utility _) => Utility.image
  | _ => []

/-- A file's content after some bytes were written at an offset. A gap is filled with zeros. -/
def overwrite (content : Bytes) (offset : Nat) (bs : Bytes) : Bytes :=
  content.take offset ++ List.replicate (offset - content.length) 0 ++ bs
    ++ content.drop (offset + bs.length)

def setOffset (k : Kernel) (file offset : Nat) : Kernel :=
  { k with files := k.files.modify file fun f => { f with offset } }

/-- Reads at most `n` bytes from an open file. -/
def read (k : Kernel) (file n : Nat) : Except HostError Bytes × Kernel :=
  match k.files[file]? with
  | none => (.error .badDescriptor, k)
  | some f =>
    if !f.readable then (.error .badDescriptor, k)
    else
      match f.outlet with
      | .pipe p =>
        let (bs, rest) := (k.pipes[p]?.getD .empty).pop n
        (.ok bs, { k with pipes := k.pipes.setIfInBounds p rest })
      | .file place =>
        let bs := ((k.fileContent place).drop f.offset).take n
        (.ok bs, k.setOffset file (f.offset + bs.length))
      | .directory _ => (.error .isADirectory, k)
      | .nothing => (.ok [], k)
      | .zeros | .full => (.ok (List.replicate n 0), k)

/-- How much is read of a file without end. What takes it from there, such as the next program of
a pipeline, leaves off before. -/
def endless : Nat := Nat.pow 2 21

/-- What can still be read from an open file. -/
def remaining (k : Kernel) (file : Nat) : Nat :=
  match k.files[file]? with
  | none => 0
  | some f =>
    match f.outlet with
    | .pipe p => (k.pipes[p]?.getD .empty).content.length
    | .file place => (k.fileContent place).length - f.offset
    | .zeros | .full => endless
    | .directory _ | .nothing => 0

/-- The sizes of the parts in which so many bytes are read, no more at once than a pipe holds. -/
def partSizes (n : Nat) : List Nat :=
  List.replicate (n / Pipe.capacity) Pipe.capacity ++ [n % Pipe.capacity]

/-- Reads all that is left in an open file. -/
def readAll (k : Kernel) (file : Nat) : Except HostError Bytes × Kernel :=
  k.read file (k.remaining file)

/-- Writes to an open file. -/
def write (k : Kernel) (file : Nat) (bs : Bytes) : Except HostError Unit × Kernel :=
  match k.files[file]? with
  | none => (.error .badDescriptor, k)
  | some f =>
    if !f.writable then (.error .badDescriptor, k)
    else
      match f.outlet with
      | .pipe p => (.ok (), { k with pipes := k.pipes.modify p (·.push bs) }.noteStall p)
      | .file place =>
        let content := k.fileContent place
        let offset := if f.appends then content.length else f.offset
        let tree := k.tree.put place (k.tree.written place (overwrite content offset bs))
        (.ok (), { k with tree }.setOffset file (offset + bs.length))
      | .directory _ => (.error .isADirectory, k)
      | .nothing | .zeros => (.ok (), k)
      | .full => (.error .noSpace, k)

/-- The size of an open file, if it is one of the tree. -/
def fileSize? (k : Kernel) (file : Nat) : Option Nat :=
  match k.files[file]? with
  | some ⟨.file place, _, _, _, _⟩ => some (k.fileContent place).length
  | _ => none

/-! ## Opening -/

/-- What the place of a device stands for, for a process with these descriptors. -/
def device? (k : Kernel) (ds : Descriptors) (place : Place) : Option (Except HostError Outlet) :=
  let own (descriptor : Nat) : Except HostError Outlet :=
    match (ds.lookup descriptor).bind (k.files[·]?) with
    | some f => .ok f.outlet
    | none => .error .notFound
  match place.map Utf8.decode? with
  | [some "dev", some "null"] => some (.ok .nothing)
  | [some "dev", some "zero"] => some (.ok .zeros)
  | [some "dev", some "full"] => some (.ok .full)
  | [some "dev", some "stdin"] => some (own 0)
  | [some "dev", some "stdout"] => some (own 1)
  | [some "dev", some "stderr"] => some (own 2)
  | [some "dev", some "fd", some n] => n.toNat?.map own
  | _ => none

/-- The device that a path leads to from a directory, if it leads to one. -/
def deviceAt? (k : Kernel) (ds : Descriptors) (directory : Place) (p : Path) :
    Option (Except HostError Outlet) :=
  if p.names.getLast? = some Path.here then none
  else k.device? ds (Tree.placeFrom (if p.isAbsolute then [] else directory) p.names)

/-- The tree as it is seen from a directory. -/
def treeFrom (k : Kernel) (directory : Place) : Tree := { k.tree with base := directory }

/-- What a path leads to, for reading. -/
def outletForReading (k : Kernel) (directory : Place) (p : Path) : Except HostError Outlet := do
  let place ← (k.treeFrom directory).resolve p
  match k.tree.node? place with
  | none => .error .notFound
  | some .directory => .ok (.directory place)
  | some _ => .ok (.file place)

/-- The place that a path leads to, for writing, and the tree with a file at it. -/
def placeForWriting (k : Kernel) (directory : Place) (p : Path) (mode : OpenMode) :
    Except HostError (Place × Tree) := do
  let place ← (k.treeFrom directory).target p
  if mode = .create && (k.tree.node? place).isSome then .error .fileExists
  else if mode = .append || mode = .update then .ok (place, k.tree.append place [])
  else .ok (place, k.tree.put place (k.tree.written place []))

/-- Opens what a path leads to. -/
def openPath (k : Kernel) (ds : Descriptors) (directory : Place) (p : Path) (mode : OpenMode) :
    Except HostError Nat × Kernel :=
  let opened (k : Kernel) (outlet : Outlet) : Except HostError Nat × Kernel :=
    let (file, k) := k.add ⟨outlet, mode.reads, mode.writes, mode = .append, 0⟩
    (.ok file, k)
  match k.deviceAt? ds directory p with
  | some (.error e) => (.error e, k)
  | some (.ok (.file place)) =>
    let tree := if mode = .replace then k.tree.put place (k.tree.written place []) else k.tree
    opened { k with tree } (.file place)
  | some (.ok outlet) => opened k outlet
  | none =>
    if mode.writes then
      match k.placeForWriting directory p mode with
      | .error e => (.error e, k)
      | .ok (place, tree) => opened { k with tree } (.file place)
    else
      match k.outletForReading directory p with
      | .error e => (.error e, k)
      | .ok outlet => opened k outlet

end Kernel

end TapeC
