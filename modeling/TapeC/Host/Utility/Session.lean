import TapeC.Host.Process
import TapeC.Host.Utility.Options

/-!
# Running a system program

A program of the system runs in a process and changes the kernel's state. What it could not write
to its output is remembered, and told when it ends.
-/

namespace TapeC

/-- What a running program changes. -/
structure Session where
  kernel : Kernel
  /-- why its output could not be written -/
  failure : Option HostError

/-- A program that runs in a process. -/
abbrev Running := ReaderT Process (StateM Session)

namespace Running

def kernel : Running Kernel := do return (← get).kernel

/-- Does something with the kernel. -/
def withKernel {α : Type} (f : Kernel → α × Kernel) : Running α :=
  modifyGet fun s => let (a, k) := f s.kernel; (a, { s with kernel := k })

/-- The open file behind a descriptor. -/
def fileOf (descriptor : Nat) : Running Nat := do return (← read).file (← kernel) descriptor

/-- The arguments, octet by octet. -/
def arguments : Running (List (List Char)) := do return (← read).arguments.map Octets.toChars

/-- Writes to the output. -/
def put (bs : Bytes) : Running Unit := do
  if bs.isEmpty then return
  let file ← fileOf Descriptor.output
  match ← withKernel (·.write file bs) with
  | .ok () => return
  | .error e => modify fun s => { s with failure := s.failure <|> some e }

def putText (cs : List Char) : Running Unit := put (Octets.ofChars cs)

/-- Writes a line to the complaints. -/
def tell (cs : List Char) : Running Unit := do
  let file ← fileOf Descriptor.complaints
  let _ ← withKernel (·.write file (Octets.ofChars (cs ++ ['\n'])))

/-- Complains of something under the program's name. -/
def complain (cs : List Char) : Running Unit := do
  tell (Octets.toChars (← read).name ++ ": ".toList ++ cs)

/-- Complains of the arguments, and tells where to learn more. -/
def refuse (cs : List Char) : Running Nat := do
  complain cs
  tell ("Try '".toList ++ Octets.toChars (← read).name
    ++ " --help' for more information.".toList)
  return 1

/-- Opens a file for reading. -/
def openFile (path : List Char) : Running (Except HostError Nat) := do
  let p ← read
  withKernel fun k => k.openPath p.descriptors p.directory ⟨Octets.ofChars path⟩ .read

/-- Runs a program in a process: its exit code, and the kernel after it. Output that could not be
written makes the program fail. -/
def finish (work : Running Nat) (p : Process) (k : Kernel) : Nat × Kernel :=
  let whole : Running Nat := do
    let code ← work
    match (← get).failure with
    | none => return code
    | some e =>
      complain ("write error: " ++ e.reason).toList
      return 1
  let (code, s) := (whole.run p).run ⟨k, none⟩
  (code, s.kernel)

end Running

end TapeC
