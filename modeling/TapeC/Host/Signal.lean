import TapeC.Host.WaitStatus

/-!
# Signals

Signals are known by numbers from 1 to 64. Scripts name most of them, with 0 for their own end, and
a program that a signal ends is told of in words. Some signals end no program by themselves.
-/

namespace TapeC.Signal

def interrupt : Nat := 2

def kill : Nat := 9

def segmentation : Nat := 11

def pipe : Nat := 13

def terminate : Nat := 15

/-- One more than the greatest number of a signal. -/
def count : Nat := 65

/-- A name after the beginning that all names of signals have. -/
def shortName (name : String) : String := String.ofList (name.toList.drop 3)

/-- The names of signals that are free for any use. -/
def freeNames : List String :=
  let low := (List.range 16).map fun n =>
    if n = 0 then "RTMIN" else "RTMIN+" ++ toString n
  let high := (List.range 15).map fun n =>
    if n = 14 then "RTMAX" else "RTMAX-" ++ toString (14 - n)
  low ++ high

/-- The names that scripts use, by number. Some signals are named by their number. -/
def names : List String :=
  "EXIT" :: ((signalNames.map shortName).set 15 "16" ++ ["32", "33"] ++ freeNames)

/-- The signal that a number or a name stands for, among those from a number on. -/
def decode? (first : Nat) (cs : List Char) : Option Nat :=
  if !cs.isEmpty && cs.all Char.isDigit then
    match (String.ofList cs).toNat? with
    | some n => if n < count then some n else none
    | none => none
  else
    let wanted := String.ofList (cs.map Char.toUpper)
    (List.range count).find? fun n => first ≤ n && names[n]? = some wanted

/-- What is said of a program that a signal ends. -/
def descriptions : List String :=
  ["Hangup", "Interrupt", "Quit", "Illegal instruction", "Trace/breakpoint trap", "Aborted",
    "Bus error", "Floating point exception", "Killed", "User defined signal 1",
    "Segmentation fault", "User defined signal 2", "Broken pipe", "Alarm clock", "Terminated",
    "Stack fault", "Child exited", "Continued", "Stopped (signal)", "Stopped",
    "Stopped (tty input)", "Stopped (tty output)", "Urgent I/O condition",
    "CPU time limit exceeded", "File size limit exceeded", "Virtual timer expired",
    "Profiling timer expired", "Window changed", "I/O possible", "Power failure",
    "Bad system call"]

def description (signal : Nat) : String :=
  match signal, descriptions[signal - 1]? with
  | 0, _ => "Unknown signal 0"
  | _, some text => text
  | n, none =>
    if n = 32 || n = 33 then "Unknown signal " ++ toString n
    else "Real-time signal " ++ toString (n - 34)

/-- The signal ends a program that does nothing about it. -/
def isDeadly (signal : Nat) : Bool :=
  0 < signal && signal < count && !([17, 18, 19, 20, 21, 22, 23, 28].contains signal)

/-- A program can do nothing about the signal. -/
def isAbsolute (signal : Nat) : Bool := signal = kill || signal = 19

example : names.length = count := by decide

end TapeC.Signal
