/-!
# How a program ended

The operating system reports the end of a program as one number, its wait status. The low seven
bits tell the ways to end apart: an exit with a code, or a signal with or without a memory dump.
-/

namespace TapeC

structure WaitStatus where
  raw : Nat
deriving DecidableEq, Inhabited

/-- What a wait status says. -/
inductive Ending where
  | exited (code : Nat)
  | signaled (signal : Nat) (dumped : Bool)
  | stopped (signal : Nat)
  | continued
  | unknown (raw : Nat)
deriving DecidableEq

/-- The names of the signals from 1 on. -/
def signalNames : List String :=
  ["SIGHUP", "SIGINT", "SIGQUIT", "SIGILL", "SIGTRAP", "SIGABRT", "SIGBUS", "SIGFPE", "SIGKILL",
    "SIGUSR1", "SIGSEGV", "SIGUSR2", "SIGPIPE", "SIGALRM", "SIGTERM", "SIGSTKFLT", "SIGCHLD",
    "SIGCONT", "SIGSTOP", "SIGTSTP", "SIGTTIN", "SIGTTOU", "SIGURG", "SIGXCPU", "SIGXFSZ",
    "SIGVTALRM", "SIGPROF", "SIGWINCH", "SIGIO", "SIGPWR", "SIGSYS"]

/-- A signal by its number and, where it has one, its name. -/
def signalText (signal : Nat) : String :=
  match signal, signalNames[signal - 1]? with
  | 0, _ | _, none => toString signal
  | _, some name => toString signal ++ " (" ++ name ++ ")"

namespace WaitStatus

def exited (code : Nat) : WaitStatus := ⟨code % 256 * 256⟩

def signaled (signal : Nat) : WaitStatus := ⟨signal % 128⟩

/-- The bits that tell the ways to end apart. -/
def kind (s : WaitStatus) : Nat := s.raw % 128

def ending (s : WaitStatus) : Ending :=
  if s.kind = 0 then .exited (s.raw / 256 % 256)
  else if s.kind < 127 then .signaled s.kind (s.raw / 128 % 2 = 1)
  else if s.raw % 256 = 127 then .stopped (s.raw / 256 % 256)
  else if s.raw = 0xFFFF then .continued
  else .unknown s.raw

/-- An exit with code zero. -/
def isSuccess (s : WaitStatus) : Bool := s.raw = 0

/-- The code that scripts know the end of a program by. -/
def scriptCode (s : WaitStatus) : Nat :=
  match s.ending with
  | .exited code => code
  | .signaled signal _ => 128 + signal
  | .stopped _ | .continued | .unknown _ => 0

def render (s : WaitStatus) : String :=
  match s.ending with
  | .exited code => "exit status: " ++ toString code
  | .signaled signal false => "signal: " ++ signalText signal
  | .signaled signal true => "signal: " ++ signalText signal ++ " (core dumped)"
  | .stopped signal => "stopped (not terminated) by signal: " ++ signalText signal
  | .continued => "continued (WIFCONTINUED)"
  | .unknown raw =>
    "unrecognised wait status: " ++ toString raw ++ " 0x" ++ String.ofList (Nat.toDigits 16 raw)

end WaitStatus

end TapeC
