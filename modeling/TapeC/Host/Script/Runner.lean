import TapeC.Host.Script.Shell

/-!
# Texts, actions and processes of a shell

What a shell does around single commands: it runs a text line by line, takes the actions for
signals, starts processes that share nothing with it but the kernel, and ends. `Runner` stands for
the running of commands and for the starting of programs, which are defined later.
-/

namespace TapeC.Script

/-- How a process becomes the program at a path: the end of the program, or why there is none. -/
abbrev Starter := Process → Path → Kernel → Except HostError WaitStatus × Kernel

/-- How a command is run: its failure is looked at by others, or nothing comes after it. -/
structure Manner where
  tested : Bool
  last : Bool

namespace Manner

def plain : Manner := ⟨false, false⟩

/-- The failure of the command is looked at. -/
def asTest : Manner := ⟨true, false⟩

/-- The same, with something after it. -/
def inside (m : Manner) : Manner := { m with last := false }

/-- The same, with nothing after it. -/
def atEnd (m : Manner) : Manner := { m with last := true }

end Manner

structure Runner where
  run : Option Command → Manner → Work Nat
  start : Starter

namespace Runner

/-! ## Texts -/

/-- Reads the next line of a text. -/
def readLine (reader : Reader) : Work (Line × Reader) := do
  let s ← get
  let reader := { reader with
    aliases := s.aliases, nextDocument := s.nextDocument, documents := [] }
  match reader.readLine with
  | .error fault =>
    modify fun s => { s with line := fault.line }
    Work.fail fault.text
  | .ok (line, after) =>
    modify fun s => { s with
      documents := after.documents ++ s.documents
      nextDocument := after.nextDocument
      lineRead := after.line }
    if s.hasOption 'v' then
      Work.tell (reader.rest.take (reader.rest.length - after.rest.length))
    return (line, after)

/-- Runs the lines of a text, no more than `n`. The status is that of the last command. -/
def runLines (r : Runner) (m : Manner) : Nat → Reader → Nat → Work Nat
  | 0, _, status => return status
  | n + 1, reader, status => do
    match ← readLine reader with
    | (.endOfScript, _) => return status
    | (.commands c, after) =>
      let code ← r.run c { m with last := m.last && after.atEnd }
      let status := if c.isSome then code else status
      if (← get).skip.isSome then return status
      runLines r m n after status

/-- Runs a text. -/
def runText (r : Runner) (m : Manner) (text : List Char) : Work Nat := do
  let line := (← get).lineRead
  Work.ensuring (runLines r m (text.length + 2) (.ofText text [] 0) 0) do
    modify fun s => { s with lineRead := line }

/-- Runs a text that is a file. A command that leaves it goes on after it. -/
def runFile (r : Runner) (text : List Char) : Work Nat := do
  let status ← r.runText .plain text
  modify fun s => match s.skip with
    | some (.text _) => { s with skip := none }
    | _ => s
  return status

/-! ## Actions for signals -/

/-- Takes the actions for signals that were caught, of which there are no more than `n`. -/
def takeActions (r : Runner) (status : Nat) : Nat → Work Unit
  | 0 => return
  | n + 1 => do
    let s ← get
    match s.caught.min? with
    | none => return
    | some signal =>
      if s.skip.isSome then return
      set { s with caught := s.caught.filter (· ≠ signal) }
      match s.traps.lookup signal with
      | none => takeActions r status n
      | some action =>
        discard (r.runText .plain action)
        if (← get).skip ≠ some (.text true) then modify fun s => { s with status }
        takeActions r status n

/-- Takes the actions for signals that were caught. The status is the same after them. -/
def takeAllActions (r : Runner) : Work Unit := do
  let s ← get
  if s.caught.isEmpty then return
  let status := s.kept.getD s.status
  set { s with kept := some status }
  takeActions r status Signal.count
  modify fun t => { t with kept := s.kept }

/-! ## The end -/

/-- The state of a shell whose work was cut short and that goes on to its end. -/
def settle (stop : Stop) (s : Shell) : Shell :=
  let asked : Bool := match stop with
    | .left => true
    | _ => s.skip == some (.text false)
  let status := if asked then s.kept.getD s.status else s.status
  { s with status, kept := none, skip := none, loops := 0, tracing := false }

/-- Takes the action for the end of the script, and ends. -/
def close (r : Runner) : StateM Shell WaitStatus := do
  let s ← get
  match s.traps.lookup 0 with
  | none | some [] => return .exited s.status
  | some action =>
    set { s with traps := s.traps.filter (·.1 ≠ 0), skip := none, kept := some s.status }
    match ← (r.runText .plain action).run with
    | .error (.over status) => return status
    | .ok _ =>
      modify fun t => settle .ended { t with skip := some (.text false) }
      return .exited (← get).status
    | .error stop =>
      modify (settle stop)
      return .exited (← get).status

/-- Runs the processes that have not come to run yet. -/
def runLater : StateM Shell Unit := modify fun s =>
  s.later.foldl (fun s (number, process) =>
    let (status, kernel) := process s.kernel
    { s with kernel, jobs := (number, status) :: s.jobs }) { s with later := [] }

/-- Does the whole work of a shell. -/
def finish (r : Runner) (work : Work Nat) : StateM Shell WaitStatus := do
  let status ← match ← work.run with
    | .ok _ => r.close
    | .error (.over status) => pure status
    | .error stop => do
      modify (settle stop)
      r.close
  runLater
  return status

/-! ## Processes -/

/-- A shell in a new process. It starts without the actions for signals. -/
def child (s : Shell) : Shell :=
  let number := s.kernel.lastProcess + 1
  { s with
    kernel.lastProcess := number
    process.number := number
    process.parent := s.process.number
    process.ignored := s.ignored
    traps := s.traps.filter (·.2.isEmpty)
    caught := []
    later := []
    jobs := [] }

/-- Does work in a new process, which is changed in some way at first: the number of the process,
and how it ended. -/
def inChild (r : Runner) (change : Shell → Shell) (work : Work Nat) : Work (Nat × WaitStatus) := do
  runLater
  let result ← modifyGet fun s =>
    let new := change (child s)
    let (status, after) := (r.finish work).run new
    ((new.process.number, status), { s with kernel := after.kernel })
  Work.receiveAll
  return result

/-- Does work in a new process, which is not waited for and runs when the shell waits or ends. -/
def inLaterChild (r : Runner) (change : Shell → Shell) (work : Work Nat) : Work Unit :=
  modify fun s =>
    let new := change (child s)
    let whole : Work Nat := do
      Work.receiveAll
      work
    let process (kernel : Kernel) : WaitStatus × Kernel :=
      let (status, after) := (r.finish whole).run { new with kernel }
      (status, after.kernel)
    let number := new.process.number
    { s with
      kernel := new.kernel
      background := some number
      later := s.later ++ [(number, process)] }

/-- Tells of a process that a signal has ended. -/
def tellEnd (status : WaitStatus) : Work Unit := do
  match status.ending with
  | .signaled signal _ =>
    if signal ≠ Signal.interrupt && signal ≠ Signal.pipe then
      Work.tell ((Signal.description signal).toList ++ ['\n'])
  | _ => return

/-- Makes the process of the shell the program at a path. -/
def become (r : Runner) (path : List Char) (name : List Char) (arguments : List (List Char)) :
    Work (Except HostError WaitStatus) := do
  runLater
  let s ← get
  let p : Process := { s.process with
    name := Octets.ofChars name
    arguments := arguments.map Octets.ofChars
    environment := s.environment
    ignored := s.ignored }
  Work.withKernel (r.start p ⟨Octets.ofChars path⟩)

end Runner

end TapeC.Script
