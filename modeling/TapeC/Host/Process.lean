import TapeC.Host.Kernel
import TapeC.Host.WaitStatus

/-!
# Processes

What a process is given by the one that starts it, and what it leaves when it ends.
-/

namespace TapeC

/-- The variables of the environment. -/
abbrev Environment := String → Option Bytes

/-- The name of the variable with the directories that programs are looked up in. -/
def searchPathVariable : String := "PATH"

/-- The search path of a machine. -/
def usualSearchPath : String := "/usr/local/sbin:/usr/local/bin:/usr/sbin:/usr/bin:/sbin:/bin"

/-- The environment of a machine in which some variables are set. -/
def Environment.ofList (vars : List (String × Bytes)) : Environment := fun name =>
  match vars.lookup name with
  | some value => some value
  | none => if name = searchPathVariable then some (Utf8.encode usualSearchPath) else none

namespace Descriptor

/-! The descriptors of the input, the output and the complaints of a program. -/

def input : Nat := 0

def output : Nat := 1

def complaints : Nat := 2

end Descriptor

/-- What a process is started with. -/
structure Process where
  /-- the name that the program goes by -/
  name : Bytes
  arguments : List Bytes
  environment : Environment
  descriptors : Descriptors
  /-- the directory that relative paths start from -/
  directory : Place
  number : Nat
  parent : Nat
  /-- the signals that do not end it -/
  ignored : List Nat

namespace Process

/-- The open file that a descriptor of the process stands for. Where there is none, no open file
has the number. -/
def file (p : Process) (k : Kernel) (descriptor : Nat) : Nat :=
  (p.descriptors.lookup descriptor).getD k.files.size

end Process

/-- What is left of a program that has ended. `unread` is the rest of its input, and `tree` is the
file tree after it. It has not really ended if it was `stalled`, but waits for its caller, who waits
for it. -/
structure Finished where
  output : Bytes
  complaints : Bytes
  status : WaitStatus
  unread : Bytes
  tree : Tree
  stalled : Bool

end TapeC
