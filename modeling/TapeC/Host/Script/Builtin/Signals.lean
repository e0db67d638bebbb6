import TapeC.Host.Script.Builtin.Variables

/-!
# Signals and processes from the shell

The commands that send signals, choose the actions for them, and wait for processes.
-/

namespace TapeC.Script.Signals

/-! ## Sending -/

/-- How `kill` is used. -/
def usage : String :=
  "Usage: kill [-s sigspec | -signum | -sigspec] [pid | job]... or\nkill -l [exitstatus]"

/-- The name of a signal, or of the one that a status tells of. -/
def nameOf (cs : List Char) : Work String := do
  let n ← Work.number cs
  let n := if n > 128 then n - 128 else n
  match if n = 0 then none else Signal.names[n]? with
  | some name => return name
  | none => Work.fail ("invalid signal number or exit status: ".toList ++ cs)

/-- Prints the names of signals. -/
def listNames (args : List (List Char)) : Work Nat := do
  match args with
  | [] => ("0" :: Signal.names.tail).forM fun name => Work.print (name ++ "\n").toList
  | arg :: _ => Work.print ((← nameOf arg) ++ "\n").toList
  return 0

/-- Sends a signal to processes, and tells of those that are not there. -/
def sendAll (signal : Nat) : Nat → List (List Char) → Work Nat
  | status, [] => return status
  | status, arg :: args => do
    if arg.head? = some '%' then Work.fail ("No such job: ".toList ++ arg)
    let negative := arg.head? = some '-'
    let number ← Work.number (if negative then arg.tail else arg)
    let sent ← if negative then pure (.error .noProcess) else Work.send number signal
    match sent with
    | .ok () => sendAll signal status args
    | .error e =>
      Work.warn (e.reason ++ "\n").toList
      sendAll signal 1 args

/-- The signal that options ask for, with the operands, or none if names are asked for. -/
def readOptions (args : List (List Char)) : Work (Bool × Option Nat × List (List Char)) := do
  match args with
  | ('-' :: cs) :: rest =>
    match Signal.decode? 1 cs with
    | some signal => return (false, some signal, rest)
    | none =>
      let l ← Letters.read [('l', false), ('s', true)] args
      let signal ← l.chosen.foldlM (fun signal (letter, value) => do
        if letter = 'l' then return signal
        match Signal.decode? 1 value with
        | some signal => return some signal
        | none => Work.fail ("invalid signal number or name: ".toList ++ value)) none
      return (l.has 'l', signal, l.operands)
  | args => return (false, none, args)

def kill : BuiltinRun := fun _ _ args _ => do
  if args.isEmpty then Work.fail usage.toList
  let (lists, signal, operands) ← readOptions args
  if lists then
    if signal.isSome then Work.fail usage.toList
    listNames operands
  else
    if operands.isEmpty then Work.fail usage.toList
    sendAll (signal.getD Signal.terminate) 0 operands

/-! ## Actions -/

/-- Chooses an action for signals, or none. -/
def setActions (action : Option (List Char)) : List (List Char) → Work Nat
  | [] => return 0
  | arg :: args => do
    match Signal.decode? 0 arg with
    | none =>
      Work.tell ("trap: ".toList ++ arg ++ ": bad trap\n".toList)
      return 1
    | some signal =>
      modify fun s =>
        if s.process.ignored.contains signal then s
        else
          let others := s.traps.filter (·.1 ≠ signal)
          { s with traps := match action with
            | none => others
            | some text => (signal, text) :: others }
      setActions action args

def trap : BuiltinRun := fun _ _ args _ => do
  match ← Letters.none args with
  | [] =>
    let s ← get
    (List.range Signal.count).forM fun signal =>
      match s.traps.lookup signal with
      | some action =>
        Work.print ("trap -- ".toList ++ Variables.quoted action
          ++ ' ' :: (Signal.names[signal]?.getD "").toList ++ ['\n'])
      | none => pure ()
    return 0
  | first :: rest =>
    let isNumber := !first.isEmpty && first.all Char.isDigit && (Signal.decode? 0 first).isSome
    if rest.isEmpty || isNumber then setActions none (first :: rest)
    else setActions (if first = ['-'] then none else some first) rest

/-! ## Waiting -/

/-- The status of the last process that is waited for. -/
def waitFor : Nat → List (List Char) → Work Nat
  | status, [] => return status
  | status, arg :: args => do
    if arg.head? = some '%' then Work.fail ("No such job: ".toList ++ arg)
    let number ← Work.number arg
    match (← get).jobs.lookup number with
    | none => waitFor status args
    | some ending =>
      Runner.tellEnd ending
      let code := ending.scriptCode
      modify fun s => { s with jobs := (number, .exited code) :: s.jobs }
      waitFor code args

def wait : BuiltinRun := fun _ _ args _ => do
  Runner.runLater
  Work.receiveAll
  match ← Letters.none args with
  | [] => return 0
  | operands => waitFor 127 operands

end TapeC.Script.Signals
