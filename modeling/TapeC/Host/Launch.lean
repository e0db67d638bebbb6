import TapeC.Host.Script.Evaluate
import TapeC.Host.Utility.Run

/-!
# Starting programs

A program is given by name. A name with a slash is a path; any other name is looked up in the
directories of the search path, in order. A file with the permission to be started says in its
first line, after `#!`, which program runs it, and that program gets the file's path and the
arguments; so every start ends at one of the programs that come with the system.
-/

namespace TapeC

/-- A program that comes with the system, the name that it is started under, and its arguments. -/
structure Program where
  utility : Utility
  name : Bytes
  arguments : List Bytes

namespace Launch

/-! ## Files that name the program that runs them -/

/-- The first bytes of a file that another program runs. -/
def interpreterMark : Bytes := [0x23, 0x21]

/-- How many bytes of a file are looked at when it is started. What is missing counts as zeros. -/
def headSize : Nat := 256

def isBlank (b : UInt8) : Bool := b = 0x20 || b = 0x09

/-- A path or an argument ends at such a byte. -/
def endsName (b : UInt8) : Bool := isBlank b || b = 0

/-- The bytes up to a zero. -/
def upToZero (bs : Bytes) : Bytes := bs.takeWhile (· ≠ 0)

/-- Without the blanks at the end. -/
def stripEnd (bs : Bytes) : Bytes := (bs.reverse.dropWhile isBlank).reverse

/-- The part of a file's beginning, after the mark, that names a program: the first line, or all of
it if no line ends in it and the name does not go on. -/
def interpreterLine? (start : Bytes) : Option Bytes :=
  let line := start.takeWhile fun b => b ≠ 0x0A && b ≠ 0
  if start[line.length]? = some 0x0A then some (stripEnd line)
  else
    let name := start.dropWhile isBlank
    if name.isEmpty || !name.any endsName then none else some (stripEnd start.dropLast)

/-- The path and the argument, if any, that the beginning of a file gives. -/
def interpreter? (content : Bytes) : Option (Path × List Bytes) := do
  if !interpreterMark.isPrefixOf content then none
  let start := (content.take headSize ++ List.replicate (headSize - content.length) 0).drop 2
  let line := (← interpreterLine? start).dropWhile isBlank
  if line.isEmpty then none
  let path := line.takeWhile (!endsName ·)
  let rest := line.drop path.length
  let argument := rest.dropWhile isBlank
  let hasArgument := rest.head?.any isBlank && !argument.isEmpty
  some (⟨path⟩, if hasArgument then [upToZero argument] else [])

/-! ## Paths -/

/-- The greatest number of bytes in an argument. -/
def maxArgument : Nat := 131071

/-- How many files may be looked at on the way to a program. -/
def maxNesting : Nat := 6

/-- What lies at a path, if it may be started. -/
def startable (t : Tree) (p : Path) : Except HostError Node := do
  match t.node? (← t.resolve p) with
  | none => .error .notFound
  | some .directory | some (.file _ false) => .error .permissionDenied
  | some node => .ok node

/-- The program that a file is started with under a name. Files may name each other no more than
`n` times. -/
def throughFile (t : Tree) : Nat → Path → Bytes → List Bytes → Except HostError Program
  | n, p, name, args => do
    let node ← startable t p
    match n, node with
    | 0, _ => .error .tooManyLevels
    | _, .utility u => .ok ⟨u, name, args⟩
    | _, .directory => .error .permissionDenied
    | n + 1, .file content _ =>
      match interpreter? content with
      | none => .error .notStartable
      | some (interpreter, argument) =>
        if interpreter.bytes.isEmpty then .error .permissionDenied
        else throughFile t n interpreter interpreter.bytes (argument ++ p.bytes :: args)

/-- The program that the file at a path is started with under a name. -/
def atPath (t : Tree) (p : Path) (name : Bytes) (args : List Bytes) : Except HostError Program := do
  discard (startable t p)
  if (name :: args).any (maxArgument < ·.length) then .error .argumentsTooLong
  else throughFile t maxNesting p name args

/-! ## Names -/

def colon : UInt8 := 0x3A

/-- The directories of a search path, between colons. An empty one is the directory that relative
paths start from, and so is one that is longer than a path, unless it is the last one. -/
def directories (searchPath : Bytes) : List Bytes :=
  let parts := Text.split colon searchPath
  let isTooLong (d : Bytes) : Bool := Tree.maxPath < d.length
  let last := (parts.getLast?.filter (!isTooLong ·)).toList
  parts.dropLast.map (fun d => if isTooLong d then [] else d) ++ last

/-- The path of a name in a directory of a search path. -/
def pathIn (name directory : Bytes) : Path :=
  ⟨if directory.isEmpty then name else directory ++ Path.slash :: name⟩

/-- The search path of a machine that does not give one. -/
def defaultSearchPath : Bytes := Utf8.encode "/bin:/usr/bin"

/-- The first directory with a file of that name that can be started decides. A file that may not
be started is passed over, but told of if there is no other; so is the last reason to pass one
over. -/
def search (t : Tree) (name : Bytes) (args : List Bytes) (denied : Bool) (last : HostError) :
    List Bytes → Except HostError Program
  | [] => .error (if denied then .permissionDenied else last)
  | d :: ds =>
    match atPath t (pathIn name d) name args with
    | .ok p => .ok p
    | .error .permissionDenied => search t name args true last ds
    | .error .notFound => search t name args denied .notFound ds
    | .error .notADirectory => search t name args denied .notADirectory ds
    | .error e => .error e

/-- The program that a name and arguments start. -/
def find (t : Tree) (searchPath : Option Bytes) (name : Bytes) (args : List Bytes) :
    Except HostError Program :=
  if (0 : UInt8) ∈ name || args.any ((0 : UInt8) ∈ ·) then .error .zeroInArgument
  else if name.isEmpty then .error .notFound
  else if Path.slash ∈ name then atPath t ⟨name⟩ name args
  else if Tree.maxName < name.length then .error .nameTooLong
  else
    search t name args false .noChildren (directories (searchPath.getD defaultSearchPath))

/-! ## Running -/

/-- How deep scripts may start each other. -/
def maxDepth : Nat := 64

/-- Runs a program in a process. Programs that it starts in turn are run by the same rules, down to
some depth, at which they end at once. -/
def runTo : Nat → Utility → Process → Kernel → WaitStatus × Kernel
  | 0, _, _, k => (.exited 2, k)
  | n + 1, u, p, k =>
    match u with
    | .shell =>
      let start : Script.Starter := fun p path k =>
        match atPath (k.treeFrom p.directory) path p.name p.arguments with
        | .error e => (.error e, k)
        | .ok program =>
          let (status, k) :=
            runTo n program.utility
              { p with name := program.name, arguments := program.arguments } k
          (.ok status, k)
      Script.run start p k
    | u => u.run p k

/-- The number of the first process. -/
def firstProcess : Nat := 2

/-- Runs a program on an input. -/
def run (t : Tree) (env : Environment) (program : Program) (input : Bytes) : Finished :=
  let k : Kernel := ⟨t, #[], #[], firstProcess, [], false⟩
  let (inputEnd, _, k) := k.addPipe input
  let (outputEnd, output, k) := k.addPipe []
  let (complaintsEnd, complaints, k) := k.addPipe []
  let p : Process :=
    { name := program.name
      arguments := program.arguments
      environment := env
      descriptors := [(Descriptor.input, inputEnd), (Descriptor.output, output),
        (Descriptor.complaints, complaints)]
      directory := t.base
      number := firstProcess
      parent := firstProcess - 1
      ignored := [] }
  let (status, k) := runTo maxDepth program.utility p k
  let left (file : Nat) : Bytes := (k.readAll file).1.toOption.getD []
  ⟨left outputEnd, left complaintsEnd, status, left inputEnd, k.tree, k.stalled⟩

end Launch

end TapeC
