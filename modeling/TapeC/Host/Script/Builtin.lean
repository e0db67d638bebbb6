import TapeC.Host.Script.Builtin.Flow
import TapeC.Host.Script.Builtin.Signals
import TapeC.Host.Script.Builtin.Test

/-!
# Commands that are built in

The table of the commands that the shell runs itself, and how one of them is called: what it has
printed is written when it is done.
-/

namespace TapeC.Script.Builtin

/-- What each command does. -/
def table : List (String × BuiltinRun) :=
  [(".", Flow.source), (":", Flow.answer 0), ("[", Condition.test), ("alias", Lookup.nameAlias),
    ("bg", Flow.resume), ("break", Flow.leaveLoops false), ("cd", Flow.changeDirectory),
    ("chdir", Flow.changeDirectory), ("command", Lookup.command),
    ("continue", Flow.leaveLoops true), ("echo", Printing.echo), ("eval", Flow.eval),
    ("exec", Lookup.exec), ("exit", Flow.exit), ("export", Variables.mark false),
    ("false", Flow.answer 1), ("fg", Flow.resume), ("getopts", Variables.getOptions),
    ("hash", Lookup.hash), ("jobs", Flow.showJobs), ("kill", Signals.kill),
    ("local", Variables.makeLocal), ("printf", Printing.printf), ("pwd", Flow.showDirectory),
    ("read", Variables.read), ("readonly", Variables.mark true), ("return", Flow.leaveText),
    ("set", Variables.setAll), ("shift", Variables.shift), ("test", Condition.test),
    ("times", Flow.showTimes), ("trap", Signals.trap), ("true", Flow.answer 0),
    ("type", Lookup.type), ("ulimit", Flow.showLimits), ("umask", Flow.mask),
    ("unalias", Lookup.unalias), ("unset", Variables.unset), ("wait", Signals.wait)]

/-- Writes what a command has printed. Its status tells if that fails. -/
def finish (name : List Char) (status : Nat) : Work Nat := do
  match ← Work.flush with
  | .ok () => return status
  | .error _ =>
    Work.warn (name ++ ": I/O error".toList)
    return status ||| 1

/-- Calls a command under its name. -/
def call (r : Runner) (name : List Char) (args : List (List Char)) (m : Manner) : Work Nat := do
  let before := (← get).command
  modify fun s => { s with command := some name }
  let work : Work Nat := do
    match table.lookup (String.ofList name) with
    | some run => finish name (← run r name args m)
    | none => return 127
  let status ← tryCatch work fun stop => do
    modify fun s => { s with command := before, unwritten := [] }
    throw stop
  modify fun s => { s with command := before, status }
  return status

end TapeC.Script.Builtin
